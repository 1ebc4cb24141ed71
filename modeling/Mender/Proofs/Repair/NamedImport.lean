import Mender.Proofs.Repair.ImportNames

/-!
# Named imports

A named import is written with or without blanks between its words and signs (`Written`). What it
says is read sign by sign: a word ends where no character of a name follows (`Declaration.read?`).
So an import says what it is written for (`Written.read?_text`), and two words without blanks
between them are one word.
-/

namespace Mender.Repair.UnusedImport

open Text

variable {s t r b w : List Char} {c : Char}

/-! ## Reading declarations -/

/-- The text behind a word that ends there. -/
def keyword? (w s : List Char) : Option (List Char) :=
  (word? w s).filter fun r => r.head?.all (!isNameChar ·)

/-- The specifiers in a list between braces. -/
def specifiersOf (named : List Char) : List (List Char) :=
  ((fields ',' named).map trim).filter (· ≠ [])

/-- The name that a specifier binds: its last word, whatever stands before it. -/
def lastWord (specifier : List Char) : List Char :=
  (specifier.reverse.takeWhile (!isBlank ·)).reverse

/-- The names that are imported at the head of a text, the default one and those in braces, and
    what follows them. -/
def names? (s : List Char) : Option (Option (List Char) × List (List Char) × List Char) :=
  match s.span isNameChar with
  | ([], _) => (braced? s).map fun (named, r) => (none, specifiersOf named, r)
  | (name, r) =>
    match trimStart r with
    | ',' :: r => (braced? (trimStart r)).map fun (named, r) => (some name, specifiersOf named, r)
    | _ => some (some name, [], r)

/-- A text in quotes at the head of a text, with its quotes, and what follows it. -/
def quoted? : List Char → Option (List Char × List Char)
  | [] => none
  | q :: s =>
    if q ∈ ['\'', '"'] then
      match s.span (· ≠ q) with
      | (path, _ :: r) => some (q :: (path ++ [q]), r)
      | (_, []) => none
    else none

/-- Where names come from at the head of a text, and what follows that. -/
def origin? (s : List Char) : Option (List Char × List Char) := do
  quoted? (trimStart (← keyword? "from".toList (trimStart s)))

/-- What an import declaration says, and what stands behind it. -/
structure Declaration where
  default? : Option (List Char)
  specifiers : List (List Char)
  /-- The path of what is imported, in quotes. -/
  origin : List Char
  tail : List Char
  deriving DecidableEq

/-- The import declaration at the head of a text. -/
def Declaration.read? (s : List Char) : Option Declaration := do
  let (default?, specifiers, r) ←
    names? (trimStart (← keyword? "import".toList (trimStart s)))
  let (origin, tail) ← origin? r
  some ⟨default?, specifiers, origin, tail⟩

/-! ## Writing named imports -/

/-- The name of something that can be imported. -/
def IsIdentifier (s : List Char) : Prop := s ≠ [] ∧ ∀ c ∈ s, isNameChar c = true

instance (s : List Char) : Decidable (IsIdentifier s) :=
  have := List.decidableBAll (fun c => isNameChar c = true) s
  instDecidableAnd

/-- A default import and the comma behind it, with blanks before and behind the comma. -/
structure DefaultPart where
  name : List Char
  before : List Char
  behind : List Char
  isIdentifier_name : IsIdentifier name
  allBlank_before : allBlank before = true
  allBlank_behind : allBlank behind = true

/-- The text of a default import in front of a list in braces. -/
def DefaultPart.text (d : DefaultPart) : List Char := d.name ++ (d.before ++ ',' :: d.behind)

/-- A named import as it is written on a line, and what stands behind it. Blanks are needed only
    between two words. -/
structure Written where
  indent : List Char
  /-- The blanks behind the keyword. -/
  gap : List Char
  default? : Option DefaultPart
  /-- The text between the braces. -/
  named : List Char
  /-- The blanks before the word `from`. -/
  before : List Char
  /-- The blanks behind the word `from`. -/
  behind : List Char
  quote : Char
  path : List Char
  tail : List Char
  allBlank_indent : allBlank indent = true
  allBlank_gap : allBlank gap = true
  allBlank_before : allBlank before = true
  allBlank_behind : allBlank behind = true
  gap_ne_nil : default? ≠ none → gap ≠ []
  brace_not_mem : '}' ∉ named
  isQuote_quote : quote ∈ ['\'', '"']
  quote_not_mem : quote ∉ path

namespace Written

variable (w : Written)

/-- The text up to the first name. -/
def lead : List Char := w.indent ++ ("import".toList ++ w.gap)

/-- The path of what is imported, in quotes. -/
def origin : List Char := w.quote :: (w.path ++ [w.quote])

/-- The text behind the closing brace. -/
def source : List Char := w.before ++ ("from".toList ++ (w.behind ++ (w.origin ++ w.tail)))

/-- The text from the opening brace on. -/
def list : List Char := '{' :: (w.named ++ '}' :: w.source)

/-- The text of the default import, if there is one. -/
def defaultText : List Char :=
  match w.default? with
  | none => []
  | some d => d.text

/-- The text of the line. -/
def text : List Char := w.lead ++ (w.defaultText ++ w.list)

/-- The name of the default import. -/
def name? : Option (List Char) := w.default?.map DefaultPart.name

/-- The specifiers in braces. -/
def specifiers : List (List Char) := specifiersOf w.named

end Written

/-! ## Reading what is written -/

theorem isNameChar_of_isBlank (h : isBlank c = true) : isNameChar c = false := by
  by_contra hname
  rw [Bool.not_eq_false, isNameChar, Bool.or_eq_true, beq_iff_eq] at hname
  rcases hname with hword | rfl
  · simp [isBlank_of_isWord hword] at h
  · exact absurd h (by decide)

theorem isBlank_of_mem_identifier (h : IsIdentifier s) (hc : c ∈ s) : isBlank c = false := by
  by_contra hblank
  have hname := isNameChar_of_isBlank (by simpa using hblank)
  simp [h.2 c hc] at hname

theorem head?_isBlank_of_isIdentifier (h : IsIdentifier s) (r : List Char) :
    ∀ c ∈ (s ++ r).head?, isBlank c = false := by
  intro c hc
  rw [List.head?_append_of_ne_nil _ h.1] at hc
  exact isBlank_of_mem_identifier h (List.mem_of_head? hc)

/-- A keyword is read where the word ends. -/
theorem keyword?_append (h : ∀ c ∈ r.head?, isNameChar c = false) :
    keyword? w (w ++ r) = some r := by
  have hword : word? w (w ++ r) = some r := word?_eq_some_iff.2 rfl
  rw [keyword?, hword]
  cases hr : r.head? with
  | none => simp [Option.filter, hr]
  | some c => simp [Option.filter, hr, h c hr]

/-- A word ends in front of blanks, and in front of a sign. -/
theorem head?_isNameChar (hb : allBlank b = true)
    (ht : b = [] → ∀ c ∈ t.head?, isNameChar c = false) :
    ∀ c ∈ (b ++ t).head?, isNameChar c = false := by
  cases b with
  | nil => exact ht rfl
  | cons d b =>
    intro c hc
    obtain rfl : d = c := by simpa using hc
    exact isNameChar_of_isBlank (allBlank_cons.1 hb).1

/-- An identifier is read to its end. -/
theorem span_identifier (h : IsIdentifier s) (hr : ∀ c ∈ r.head?, isNameChar c = false) :
    (s ++ r).span isNameChar = (s, r) :=
  span_eq_iff.2 ⟨rfl, h.2, hr⟩

theorem span_isNameChar_eq_nil (h : ∀ c ∈ s.head?, isNameChar c = false) :
    s.span isNameChar = ([], s) :=
  span_eq_iff.2 ⟨rfl, nofun, h⟩

/-- A default import with nothing in braces. -/
theorem names?_default (h : IsIdentifier s) (hr : ∀ c ∈ r.head?, isNameChar c = false)
    (hcomma : (trimStart r).head? ≠ some ',') : names? (s ++ r) = some (some s, [], r) := by
  obtain ⟨c, s, rfl⟩ := List.exists_cons_of_ne_nil h.1
  rw [names?, span_identifier h hr]
  dsimp only
  split
  · next r' hr' => simp [hr'] at hcomma
  · rfl

namespace DefaultPart

variable (d : DefaultPart)

theorem head?_isNameChar (r : List Char) :
    ∀ c ∈ (d.before ++ ',' :: r).head?, isNameChar c = false :=
  UnusedImport.head?_isNameChar d.allBlank_before fun _ c hc => by
    obtain rfl : ',' = c := by simpa using hc
    decide

/-- The default is read to its end. -/
theorem span_text (r : List Char) :
    (d.text ++ r).span isNameChar = (d.name, d.before ++ ',' :: (d.behind ++ r)) := by
  have htext : d.text ++ r = d.name ++ (d.before ++ ',' :: (d.behind ++ r)) := by simp [text]
  rw [htext, span_identifier d.isIdentifier_name (d.head?_isNameChar _)]

theorem trimStart_comma (r : List Char) : trimStart (d.before ++ ',' :: r) = ',' :: r :=
  trimStart_append d.allBlank_before (by simp; decide)

end DefaultPart

namespace Written

variable (w : Written)

theorem head?_list : ∀ c ∈ w.list.head?, isBlank c = false ∧ isNameChar c = false := by
  intro c hc
  obtain rfl : '{' = c := by simpa [list] using hc
  decide

theorem span_list : w.list.span isNameChar = ([], w.list) :=
  span_isNameChar_eq_nil fun c hc => (w.head?_list c hc).2

theorem trimStart_list (hb : allBlank b = true) : trimStart (b ++ w.list) = w.list :=
  trimStart_append hb fun c hc => (w.head?_list c hc).1

/-- The names are read to the closing brace. -/
theorem braced?_list : braced? w.list = some (w.named, w.source) :=
  braced?_eq_some_iff.2 ⟨rfl, w.brace_not_mem⟩

/-- The default and the names are read as they are written. -/
theorem names?_text :
    names? (w.defaultText ++ w.list) = some (w.name?, w.specifiers, w.source) := by
  rw [defaultText, name?]
  cases hd : w.default? with
  | none =>
    simp only [List.nil_append, names?, w.span_list, w.braced?_list]
    rfl
  | some d =>
    obtain ⟨c, n, hn⟩ := List.exists_cons_of_ne_nil d.isIdentifier_name.1
    rw [names?, d.span_text, hn]
    dsimp only
    rw [d.trimStart_comma]
    simp only [w.trimStart_list d.allBlank_behind, w.braced?_list, Option.map_some, ← hn]
    rfl

theorem isQuote_cases : w.quote = '\'' ∨ w.quote = '"' := by simpa using w.isQuote_quote

theorem head?_origin (r : List Char) :
    ∀ c ∈ (w.origin ++ r).head?, isBlank c = false ∧ isNameChar c = false := by
  intro c hc
  obtain rfl : w.quote = c := by simpa [origin] using hc
  rcases w.isQuote_cases with h | h <;> rw [h] <;> decide

/-- The origin is read to the closing quote. -/
theorem quoted?_origin (r : List Char) : quoted? (w.origin ++ r) = some (w.origin, r) := by
  have horigin : w.origin ++ r = w.quote :: (w.path ++ w.quote :: r) := by simp [origin]
  rw [horigin, quoted?, if_pos w.isQuote_quote, span_ne_append w.quote_not_mem]
  rfl

theorem trimStart_source :
    trimStart w.source = "from".toList ++ (w.behind ++ (w.origin ++ w.tail)) :=
  trimStart_append w.allBlank_before (by simp; decide)

theorem trimStart_behind : trimStart (w.behind ++ (w.origin ++ w.tail)) = w.origin ++ w.tail :=
  trimStart_append w.allBlank_behind fun c hc => (w.head?_origin _ c hc).1

/-- Where the names come from is read, if the word `from` is read as a word. -/
theorem origin?_source : origin? w.source = some (w.origin, w.tail) := by
  have hword := keyword?_append (w := "from".toList) (head?_isNameChar w.allBlank_behind
    fun _ c hc => (w.head?_origin w.tail c hc).2)
  simp only [origin?, w.trimStart_source, hword, w.trimStart_behind, w.quoted?_origin,
    Option.bind_eq_bind, Option.bind_some]

theorem head?_names : ∀ c ∈ (w.defaultText ++ w.list).head?, isBlank c = false := by
  rw [defaultText]
  cases w.default? with
  | none => exact fun c hc => (w.head?_list c hc).1
  | some d =>
    dsimp only
    rw [DefaultPart.text, List.append_assoc]
    exact head?_isBlank_of_isIdentifier d.isIdentifier_name _

theorem default?_eq_none (h : w.gap = []) : w.default? = none := by
  by_contra hd
  exact w.gap_ne_nil hd h

/-- Without blanks behind the keyword, a brace comes next. -/
theorem head?_names_of_gap (h : w.gap = []) :
    ∀ c ∈ (w.defaultText ++ w.list).head?, isNameChar c = false := by
  rw [defaultText, w.default?_eq_none h]
  exact fun c hc => (w.head?_list c hc).2

theorem trimStart_lead (r : List Char) :
    trimStart (w.lead ++ r) = "import".toList ++ (w.gap ++ r) := by
  rw [lead, List.append_assoc, List.append_assoc]
  exact trimStart_append w.allBlank_indent (by simp; decide)

/-- What stands behind the keyword and its blanks is read by itself. -/
theorem read?_lead (hblank : ∀ c ∈ t.head?, isBlank c = false)
    (hword : w.gap = [] → ∀ c ∈ t.head?, isNameChar c = false) :
    Declaration.read? (w.lead ++ t) = (names? t).bind fun (default?, specifiers, r) =>
      (origin? r).bind fun (origin, tail) => some ⟨default?, specifiers, origin, tail⟩ := by
  have hkeyword := keyword?_append (w := "import".toList)
    (head?_isNameChar w.allBlank_gap hword)
  have ht : trimStart (w.gap ++ t) = t := trimStart_append w.allBlank_gap hblank
  simp only [Declaration.read?, w.trimStart_lead, hkeyword, ht, Option.bind_eq_bind,
    Option.bind_some]

/-- A named import says what it is written for. -/
theorem read?_text :
    Declaration.read? w.text = some ⟨w.name?, w.specifiers, w.origin, w.tail⟩ := by
  rw [text, w.read?_lead w.head?_names w.head?_names_of_gap, w.names?_text]
  simp only [Option.bind_some, w.origin?_source]

end Written

end Mender.Repair.UnusedImport
