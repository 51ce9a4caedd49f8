import LicenseAudit.Proofs.Header.Placement

/-!
# Declarations proper

The declaration of a document is an instruction with the target `xml`, so that white space must
stand behind these letters. What is read as a declaration need not have it there: an instruction
whose target only begins with `xml`, as `<?xml-stylesheet ...?>`, is taken for one. What the grammar
of XML 1.0 calls a declaration is always read as one, and where a file begins with no other
instruction of the kind, declarations and nothing else go before the header.

* `Declaration.Proper` — a declaration whose target is `xml`, with its margin;
* `Declaration.Grammatical` — a declaration by the grammar;
* `Displaces` — a content with a header behind its declaration proper, or else in front.

## Results

* `Declaration.Grammatical.proper` — declarations by the grammar are declarations proper.
* `displaces_iff` — when declarations proper, and nothing else, go before the header.
-/

namespace LicenseAudit

open Text

namespace Declaration

-- ---------------------------------------------------------------------------
-- The target
-- ---------------------------------------------------------------------------

/-- The white space of markup. -/
def isSpace (c : Char) : Bool := c ∈ [' ', '\t', '\r', '\n']

/-- A declaration proper, with its margin: white space ends its target, which is `xml`. -/
def Proper (d : Bytes) : Prop :=
  ∃ front space body, Margin front ∧ isSpace space = true ∧ 0x3E ∉ body ∧
    d = front ++ (opening ++ (encode [space] ++ (body ++ closing)))

/-- The byte `0x3E` stands for the character `>` and for nothing else. -/
theorem not_mem_encode {text : List Char} (h : '>' ∉ text) : 0x3E ∉ encode text := by
  intro hMem
  obtain ⟨u, v, hCut⟩ := List.append_of_mem hMem
  have hSingle : IsSingle '>' 0x3E := ⟨by decide, by decide⟩
  obtain ⟨before, behind, rfl, -, -⟩ := exists_cut hSingle hCut
  exact h (List.mem_append_right _ (List.mem_cons_self ..))

theorem ne_of_isSpace {c : Char} (h : isSpace c = true) : '>' ≠ c := by
  rintro rfl
  exact absurd h (by decide)

/-- Every declaration proper is read as a declaration. -/
theorem Proper.leading {d : Bytes} (h : Proper d) : Leading d := by
  obtain ⟨front, space, body, hMargin, hSpace, hBody, rfl⟩ := h
  refine ⟨front, encode [space] ++ body, hMargin, ?_, by simp⟩
  rw [List.mem_append, not_or]
  exact ⟨not_mem_encode (by simpa using ne_of_isSpace hSpace), hBody⟩

/-- What is read as a declaration is one just if the first character behind `<?xml` is white
space. -/
theorem proper_append_iff {front body : Bytes} (hMargin : Margin front) (hBody : 0x3E ∉ body) :
    Proper (front ++ (opening ++ (body ++ closing))) ↔
      ∃ space rest, isSpace space = true ∧ body = encode [space] ++ rest := by
  constructor
  · rintro ⟨front', space, rest, hMargin', hSpace, -, hParts⟩
    -- both margins are passed over, after which the same bytes are left
    have hInner := congrArg (fun bytes => dropBlank (dropMark bytes)) hParts
    simp only [hMargin.dropBlank_eq, hMargin'.dropBlank_eq] at hInner
    refine ⟨space, rest, hSpace, ?_⟩
    rw [← List.append_assoc (encode [space])] at hInner
    exact List.append_cancel_right (List.append_cancel_left hInner)
  · rintro ⟨space, rest, hSpace, rfl⟩
    refine ⟨front, space, rest, hMargin, hSpace, ?_, by simp⟩
    exact fun hMem => hBody (List.mem_append_right _ hMem)

-- ---------------------------------------------------------------------------
-- The grammar
-- ---------------------------------------------------------------------------

/-- A version number as the first edition of the grammar has it. The numbers of the later editions
are among these. -/
def VersionNumber (value : List Char) : Prop :=
  value ≠ [] ∧ ∀ c ∈ value, c.isAlphanum = true ∨ c ∈ "_.:-".toList

def EncodingName (value : List Char) : Prop :=
  ∃ first more, value = first :: more ∧ first.isAlpha = true ∧
    ∀ c ∈ more, c.isAlphanum = true ∨ c ∈ "._-".toList

def Standalone (value : List Char) : Prop := value = "yes".toList ∨ value = "no".toList

/-- White space, and the attribute of this name with one of the allowed values between double or
single quotes. -/
inductive Attribute (name : String) (Allowed : List Char → Prop) : List Char → Prop
  | quoted {space before behind value : List Char} {quote : Char} (hSome : space ≠ [])
      (hSpace : ∀ c ∈ space ++ before ++ behind, isSpace c = true)
      (hQuote : quote = '\x22' ∨ quote = '\x27') (hValue : Allowed value) :
      Attribute name Allowed
        (space ++ name.toList ++ before ++ ['='] ++ behind ++ [quote] ++ value ++ [quote])

/-- A declaration by the grammar of XML 1.0. -/
inductive Grammatical : List Char → Prop
  | declaration {version encoding standalone space : List Char}
      (hVersion : Attribute "version" VersionNumber version)
      (hEncoding : encoding = [] ∨ Attribute "encoding" EncodingName encoding)
      (hStandalone : standalone = [] ∨ Attribute "standalone" Standalone standalone)
      (hSpace : ∀ c ∈ space, isSpace c = true) :
      Grammatical
        ("<?xml".toList ++ (version ++ encoding ++ standalone ++ space) ++ "?>".toList)

theorem VersionNumber.not_mem {value : List Char} (h : VersionNumber value) : '>' ∉ value :=
  fun hMem => absurd (h.2 _ hMem) (by decide)

theorem EncodingName.not_mem {value : List Char} (h : EncodingName value) : '>' ∉ value := by
  obtain ⟨first, more, rfl, hFirst, hMore⟩ := h
  intro hMem
  rcases List.mem_cons.mp hMem with rfl | hMem
  · exact absurd hFirst (by decide)
  · exact absurd (hMore _ hMem) (by decide)

theorem Standalone.not_mem {value : List Char} (h : Standalone value) : '>' ∉ value := by
  rcases h with rfl | rfl <;> decide

variable {name : String} {Allowed : List Char → Prop} {text : List Char}

theorem Attribute.not_mem (h : Attribute name Allowed text) (hName : '>' ∉ name.toList)
    (hAllowed : ∀ value, Allowed value → '>' ∉ value) : '>' ∉ text := by
  obtain ⟨hSome, hSpace, hQuote, hValue⟩ := h
  rename_i space before behind value quote
  have hSpaces : '>' ∉ space ++ before ++ behind := fun hMem => ne_of_isSpace (hSpace _ hMem) rfl
  have hQuotes : '>' ≠ quote := by rcases hQuote with rfl | rfl <;> decide
  simp only [List.mem_append, List.mem_singleton, not_or] at hSpaces ⊢
  exact ⟨⟨⟨⟨⟨⟨⟨hSpaces.1.1, hName⟩, hSpaces.1.2⟩, by decide⟩, hSpaces.2⟩, hQuotes⟩,
    hAllowed _ hValue⟩, hQuotes⟩

/-- An attribute begins with white space. -/
theorem Attribute.exists_space (h : Attribute name Allowed text) :
    ∃ c more, isSpace c = true ∧ text = c :: more := by
  obtain ⟨hSome, hSpace, hQuote, hValue⟩ := h
  rename_i space before behind value quote
  obtain ⟨c, more, rfl⟩ := List.exists_cons_of_ne_nil hSome
  exact ⟨c, _, hSpace c (by simp), rfl⟩

/-- **Every declaration that the grammar allows is a declaration proper.** -/
theorem Grammatical.proper {front : Bytes} (h : Grammatical text) (hMargin : Margin front) :
    Proper (front ++ encode text) := by
  obtain ⟨hVersion, hEncoding, hStandalone, hSpace⟩ := h
  rename_i version encoding standalone space
  have hNot : '>' ∉ version ++ encoding ++ standalone ++ space := by
    simp only [List.mem_append, not_or]
    refine ⟨⟨⟨?_, ?_⟩, ?_⟩, fun hMem => ne_of_isSpace (hSpace _ hMem) rfl⟩
    · exact hVersion.not_mem (by decide) fun _ => VersionNumber.not_mem
    · rcases hEncoding with rfl | hEncoding
      · exact List.not_mem_nil
      · exact hEncoding.not_mem (by decide) fun _ => EncodingName.not_mem
    · rcases hStandalone with rfl | hStandalone
      · exact List.not_mem_nil
      · exact hStandalone.not_mem (by decide) fun _ => Standalone.not_mem
  obtain ⟨c, more, hFirst, rfl⟩ := hVersion.exists_space
  have hBody := (proper_append_iff hMargin (not_mem_encode hNot)).mpr
    ⟨c, _, hFirst, encode_cons c (more ++ encoding ++ standalone ++ space)⟩
  rwa [encode_append, encode_append, List.append_assoc]

end Declaration

-- ---------------------------------------------------------------------------
-- What goes before the header
-- ---------------------------------------------------------------------------

open Declaration

variable {content d lineBreak rest : Bytes}

/-- The result is the content with the header behind its declaration proper or, if it has none, in
front of everything. Every declaration by the grammar is one. -/
structure Displaces (content header result : Bytes) : Prop where
  behind  : ∀ d, Proper d → d <+: content →
    ∃ lineBreak rest, Cut content d lineBreak rest ∧ result = d ++ gap ++ header ++ gap ++ rest
  grammar : ∀ front text, Margin front → Grammatical text → front ++ encode text <+: content →
    ∃ lineBreak rest, Cut content (front ++ encode text) lineBreak rest ∧
      result = front ++ encode text ++ gap ++ header ++ gap ++ rest
  front   : (∀ d, Proper d → ¬ d <+: content) → result = header ++ gap ++ content

/-- The header is never in front of what is read as a declaration. -/
theorem Cut.insertHeader_ne (h : Cut content d lineBreak rest) (header : Bytes) :
    insertHeader content header ≠ header ++ gap ++ content := by
  rw [insertHeader_of_cut h, h.whole, ← List.append_assoc, ← List.append_assoc]
  intro hSame
  have hEnds := List.append_cancel_right hSame
  -- two bytes are taken away with the line break, which is then not the end of an empty line
  have hLength := congrArg List.length hEnds
  have hGap : gap.length = 2 := rfl
  simp only [List.length_append, hGap] at hLength
  rcases h.breaks with rfl | rfl | ⟨rfl, -, -⟩
  · have hLast : gap = [0x0D, 0x0A] := (List.append_inj_right' hEnds rfl)
    exact absurd hLast (by decide)
  · simp only [List.length_cons, List.length_nil] at hLength
    omega
  · simp only [List.length_nil] at hLength
    omega

/-- **Declarations proper, and nothing else, go before the header**, whatever it is, exactly if the
file does not begin with something else that is read as a declaration. -/
theorem displaces_iff (content header : Bytes) :
    Displaces content header (insertHeader content header) ↔
      ∀ d, Leading d → d <+: content → Proper d := by
  constructor
  · intro h d hLeading hPrefix
    obtain ⟨lineBreak, rest, hCut⟩ := exists_cut_of_leading hLeading hPrefix
    -- were it not proper, the header would be in front
    refine Classical.byContradiction fun hNot =>
      hCut.insertHeader_ne header (h.front fun d' hProper hPrefix' => hNot ?_)
    rwa [hLeading.unique hProper.leading hPrefix hPrefix']
  · intro h
    have hBehind : ∀ d, Proper d → d <+: content → ∃ lineBreak rest,
        Cut content d lineBreak rest ∧
          insertHeader content header = d ++ gap ++ header ++ gap ++ rest := by
      intro d hProper hPrefix
      obtain ⟨lineBreak, rest, hCut⟩ := exists_cut_of_leading hProper.leading hPrefix
      exact ⟨lineBreak, rest, hCut, insertHeader_of_cut hCut header⟩
    refine ⟨hBehind, fun front text hMargin hText => hBehind _ (hText.proper hMargin), ?_⟩
    exact fun hNone =>
      insertHeader_of_plain (fun d hLeading hPrefix => hNone d (h d hLeading hPrefix) hPrefix) header

/-- An instruction that names a style sheet goes before the header. -/
theorem not_displaces_stylesheet :
    ¬ Displaces (encode "<?xml-stylesheet href=\"a.xsl\"?>\n<a/>\n".toList)
      (encode "<!-- h -->".toList)
      (insertHeader (encode "<?xml-stylesheet href=\"a.xsl\"?>\n<a/>\n".toList)
        (encode "<!-- h -->".toList)) := by
  intro h
  have hMargin : Margin [] := ⟨[], [], Or.inl rfl, fun _ hMem => absurd hMem List.not_mem_nil, rfl⟩
  have hBody : 0x3E ∉ encode "-stylesheet href=\"a.xsl\"".toList := by decide
  have hLeading : Leading (encode "<?xml-stylesheet href=\"a.xsl\"?>".toList) :=
    ⟨[], _, hMargin, hBody, by decide⟩
  have hPrefix : encode "<?xml-stylesheet href=\"a.xsl\"?>".toList <+:
      encode "<?xml-stylesheet href=\"a.xsl\"?>\n<a/>\n".toList :=
    ⟨encode "\n<a/>\n".toList, by decide⟩
  obtain ⟨lineBreak, rest, hCut⟩ := exists_cut_of_leading hLeading hPrefix
  refine hCut.insertHeader_ne _ (h.front fun d hProper hPrefix' => ?_)
  rw [← hLeading.unique hProper.leading hPrefix hPrefix'] at hProper
  obtain ⟨space, more, hSpace, hFirst⟩ := (proper_append_iff hMargin hBody).mp hProper
  rw [show encode "-stylesheet href=\"a.xsl\"".toList =
    encode ['-'] ++ encode "stylesheet href=\"a.xsl\"".toList from encode_cons ..] at hFirst
  obtain ⟨rfl, -⟩ := encode_char_append_inj hFirst
  exact absurd hSpace (by decide)

end LicenseAudit
