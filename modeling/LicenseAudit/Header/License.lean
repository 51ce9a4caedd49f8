/-!
# The license text

The text that goes into every header when a configuration names no other one, and the marker
that tells whether a file carries it.
-/

namespace LicenseAudit

/-- A file carries its license when this text stands somewhere in it. -/
def defaultMarker : String := "http://www.apache.org/licenses/LICENSE-2.0"

/-- The license text of the Apache Software Foundation, without comment markers. -/
def defaultLicenseText : String := String.intercalate "\n"
  [ "Licensed to the Apache Software Foundation (ASF) under one or more",
    "contributor license agreements.  See the NOTICE file distributed with",
    "this work for additional information regarding copyright ownership.",
    "The ASF licenses this file to You under the Apache License, Version 2.0",
    "(the \"License\"); you may not use this file except in compliance with",
    "the License.  You may obtain a copy of the License at",
    "",
    "    http://www.apache.org/licenses/LICENSE-2.0",
    "",
    "Unless required by applicable law or agreed to in writing, software",
    "distributed under the License is distributed on an \"AS IS\" BASIS,",
    "WITHOUT WARRANTIES OR CONDITIONS OF ANY KIND, either express or implied.",
    "See the License for the specific language governing permissions and",
    "limitations under the License." ]

end LicenseAudit
