/-
  A reader of JSON documents, and what it gets from the printed ones.

  The reader (`parse?`) knows the JSON that documents here can hold: any spacing between the parts,
  every escape, surrogate pairs, and integers in their usual spelling.  What is left over after the
  document must be blank, so a text that it accepts is one document and nothing else.

  It undoes the printer piece by piece:

  * a character is printed as its UTF-16 units, plain or escaped (`readUnits_escapeChar`), and the
    units of a text give back its characters (`characters_text`);
  * a numeral ends where the next character cannot continue it (`readInt_toString`);
  * documents, the items of a list and the fields of an object go together, by induction on the
    document (`readValue_printAt`).  The printed text is fuel enough.

  `parse?_print` puts this together: what was printed is read back as it was.
-/
import Mathlib.Algebra.Group.Nat.Defs
import Mathlib.Tactic.SplitIfs
import Relaunch.Json.Printer
import Relaunch.Proofs.Numerals

namespace Relaunch.Json

open Relaunch.Text

/-! ## Texts -/

/-- The value of a hexadecimal digit. -/
def hexValue? (c : Char) : Option Nat :=
  if '0' ≤ c ∧ c ≤ '9' then some (c.toNat - '0'.toNat)
  else if 'a' ≤ c ∧ c ≤ 'f' then some (c.toNat - 'a'.toNat + 10)
  else if 'A' ≤ c ∧ c ≤ 'F' then some (c.toNat - 'A'.toNat + 10)
  else none

/-- The number that hexadecimal digits show. -/
def readHex (digits : List Char) : Option Nat :=
  digits.foldlM (fun value c => (hexValue? c).map (16 * value + ·)) 0

/-- The unit that a letter after a backslash stands for. -/
def shortEscape? : Char → Option Nat
  | '"' => some 34
  | '\\' => some 92
  | '/' => some 47
  | 'b' => some 8
  | 'f' => some 12
  | 'n' => some 10
  | 'r' => some 13
  | 't' => some 9
  | _ => none

/-- The units of a text up to the quote that closes it, and what follows that.  A character that is
not escaped is its own unit, also where UTF-16 has two for it. -/
def readUnits : List Char → Option (List Nat × List Char)
  | [] => none
  | c :: rest =>
    if c = '"' then some ([], rest)
    else if c = '\\' then
      match rest with
      | 'u' :: a :: b :: c :: d :: rest => do
        let unit ← readHex [a, b, c, d]
        let (units, rest) ← readUnits rest
        return (unit :: units, rest)
      | letter :: rest => do
        let unit ← shortEscape? letter
        let (units, rest) ← readUnits rest
        return (unit :: units, rest)
      | [] => none
    else if c.toNat < 32 then none
    else do
      let (units, rest) ← readUnits rest
      return (c.toNat :: units, rest)

/-- The characters that units stand for; none where a surrogate has no partner. -/
def characters : List Nat → Option (List Char)
  | [] => some []
  | unit :: rest =>
    if 0xd800 ≤ unit ∧ unit < 0xdc00 then
      match rest with
      | [] => none
      | low :: rest =>
        if 0xdc00 ≤ low ∧ low < 0xe000 then
          (characters rest).map
            (Char.ofNat (0x10000 + (unit - 0xd800) * 0x400 + (low - 0xdc00)) :: ·)
        else none
    else if 0xdc00 ≤ unit ∧ unit < 0xe000 then none
    else (characters rest).map (Char.ofNat unit :: ·)

/-- A text whose opening quote has been read, and what follows it. -/
def readText (source : List Char) : Option (String × List Char) := do
  let (units, rest) ← readUnits source
  let chars ← characters units
  return (String.ofList chars, rest)

/-! ## Words and numerals -/

/-- One of the three words, and what follows it. -/
def readWord : List Char → Option (Json × List Char)
  | 'n' :: 'u' :: 'l' :: 'l' :: rest => some (.null, rest)
  | 't' :: 'r' :: 'u' :: 'e' :: rest => some (.bool true, rest)
  | 'f' :: 'a' :: 'l' :: 's' :: 'e' :: rest => some (.bool false, rest)
  | _ => none

/-- May `c` be part of an integer? -/
def isNumeral (c : Char) : Bool := c == '-' || c.isDigit

/-- An integer in its usual spelling, and what follows it. -/
def readInt (source : List Char) : Option (Json × List Char) := do
  let numeral := String.ofList (source.takeWhile isNumeral)
  let value ← numeral.toInt?
  if toString value = numeral then some (.int value, source.dropWhile isNumeral) else none

/-! ## Documents -/

/-- May `c` stand between the parts of a document? -/
def isSpacing (c : Char) : Bool := c == ' ' || c == '\n' || c == '\r' || c == '\t'

/-- The text from its first character on that is not spacing. -/
def skip (source : List Char) : List Char := source.dropWhile isSpacing

/-- The name of a field and its colon, and what follows that. -/
def readName (source : List Char) : Option (String × List Char) :=
  match skip source with
  | '"' :: rest => do
    let (name, rest) ← readText rest
    match skip rest with
    | ':' :: rest => return (name, rest)
    | _ => none
  | _ => none

mutual

/-- A document, and what follows it.  Each level of nesting, and each item and field, takes one unit
of fuel. -/
def readValue : (fuel : Nat) → List Char → Option (Json × List Char)
  | 0, _ => none
  | fuel + 1, source =>
    match skip source with
    | '"' :: rest => do
      let (value, rest) ← readText rest
      return (.text value, rest)
    | '[' :: rest =>
      match skip rest with
      | ']' :: rest => some (.list [], rest)
      | _ => do
        let (items, rest) ← readItems fuel rest
        return (.list items, rest)
    | '\x7b' :: rest =>
      match skip rest with
      | '\x7d' :: rest => some (.object [], rest)
      | _ => do
        let (fields, rest) ← readFields fuel rest
        return (.object fields, rest)
    | rest => (readWord rest).or (readInt rest)

/-- The items of a list from one of them to the closing bracket, and what follows that. -/
def readItems : (fuel : Nat) → List Char → Option (List Json × List Char)
  | 0, _ => none
  | fuel + 1, source => do
    let (item, rest) ← readValue fuel source
    match skip rest with
    | ',' :: rest => do
      let (items, rest) ← readItems fuel rest
      return (item :: items, rest)
    | ']' :: rest => return ([item], rest)
    | _ => none

/-- The fields of an object from one of them to the closing brace, and what follows that. -/
def readFields : (fuel : Nat) → List Char → Option (List (String × Json) × List Char)
  | 0, _ => none
  | fuel + 1, source => do
    let (name, rest) ← readName source
    let (value, rest) ← readValue fuel rest
    match skip rest with
    | ',' :: rest => do
      let (fields, rest) ← readFields fuel rest
      return ((name, value) :: fields, rest)
    | '\x7d' :: rest => return ([(name, value)], rest)
    | _ => none

end

/-- The document that a text holds, if it is one document with nothing but spacing around it. -/
def parse? (source : String) : Option Json :=
  match readValue (source.length + 1) source.toList with
  | none => none
  | some (document, rest) => if skip rest = [] then some document else none

/-! ## Texts read back -/

/-- The UTF-16 units of a character. -/
def unitsOf (c : Char) : List Nat :=
  if c.toNat < 0x10000 then [c.toNat]
  else [0xd800 + (c.toNat - 0x10000) / 0x400, 0xdc00 + (c.toNat - 0x10000) % 0x400]

theorem hexValue?_hexDigit (n : Nat) : hexValue? (hexDigit n) = some (n % 16) := by
  have hall : ∀ d < 16, hexValue? (Nat.digitChar d) = some d := by decide
  exact hall (n % 16) (Nat.mod_lt _ (by decide))

/-- Digits of a given width show every number that fits into them. -/
theorem readHex_hexDigits (width n : Nat) (h : n < 16 ^ width) :
    readHex (hexDigits width n) = some n := by
  induction width generalizing n with
  | zero =>
    obtain rfl : n = 0 := by simpa using h
    rfl
  | succ width ih =>
    have hhigh := ih (n / 16) (by rw [Nat.pow_succ] at h; omega)
    rw [readHex] at hhigh ⊢
    rw [hexDigits, List.foldlM_append, hhigh]
    simp [hexValue?_hexDigit, Nat.div_add_mod]

/-- A unit of which the number is written out takes six characters, whatever follows. -/
theorem readUnits_escapeUnit (unit : Nat) (h : unit < 0x10000) (tail : List Char) :
    readUnits (escapeUnit unit ++ tail) =
      (readUnits tail).map fun read => (unit :: read.1, read.2) := by
  have hhex := readHex_hexDigits 4 unit h
  simp only [escapeUnit, hexDigits, List.nil_append, List.cons_append] at hhex ⊢
  rw [readUnits, if_neg (by decide), if_pos rfl, hhex]
  cases readUnits tail <;> rfl

/-- The letter of a short escape is never the one that hexadecimal digits follow. -/
theorem readUnits_letter {letter : Char} {unit : Nat} (h : shortEscape? letter = some unit)
    (tail : List Char) :
    readUnits ('\\' :: letter :: tail) =
      (readUnits tail).map fun read => (unit :: read.1, read.2) := by
  have hletter : letter ≠ 'u' := by
    rintro rfl
    cases h
  rw [readUnits, if_neg (by decide), if_pos rfl, h]
  · cases readUnits tail <;> rfl
  · exact fun _ _ _ _ _ hu => absurd hu hletter

theorem readUnits_plain {c : Char} (quote : c ≠ '"') (escape : c ≠ '\\') (printable : 32 ≤ c.toNat)
    (tail : List Char) :
    readUnits (c :: tail) = (readUnits tail).map fun read => (c.toNat :: read.1, read.2) := by
  rw [readUnits.eq_def]
  simp only [if_neg quote, if_neg escape, if_neg (Nat.not_lt.mpr printable)]
  cases readUnits tail <;> rfl

/-- Whichever way a character is printed, the reader gets its units. -/
theorem readUnits_escapeChar (c : Char) (tail : List Char) :
    readUnits (escapeChar c ++ tail) =
      (readUnits tail).map fun read => (unitsOf c ++ read.1, read.2) := by
  have hvalid : c.toNat < 0xd800 ∨ 0xdfff < c.toNat ∧ c.toNat < 0x110000 := c.valid
  unfold escapeChar
  split_ifs with hquote hescape hfeed hreturn htab hform hback hplain hunit
  iterate 7
    subst c
    exact readUnits_letter rfl tail
  · rw [unitsOf, if_pos (by omega)]
    exact readUnits_plain hquote hescape hplain.1 tail
  · rw [unitsOf, if_pos hunit]
    exact readUnits_escapeUnit _ hunit tail
  · rw [unitsOf, if_neg hunit, List.append_assoc, readUnits_escapeUnit _ (by omega),
      readUnits_escapeUnit _ (by omega)]
    cases readUnits tail <;> rfl

/-- By induction on the characters; the quote that closes the text is the first one that is not
escaped. -/
theorem readUnits_text (chars tail : List Char) :
    readUnits (chars.flatMap escapeChar ++ '"' :: tail) = some (chars.flatMap unitsOf, tail) := by
  induction chars with
  | nil =>
    rw [List.flatMap_nil, List.nil_append, readUnits.eq_def]
    simp
  | cons c chars ih =>
    rw [List.flatMap_cons, List.append_assoc, readUnits_escapeChar, ih]
    rfl

/-- The first unit tells whether a second one belongs to the character. -/
theorem characters_unitsOf (c : Char) (more : List Nat) :
    characters (unitsOf c ++ more) = (characters more).map (c :: ·) := by
  have hvalid : c.toNat < 0xd800 ∨ 0xdfff < c.toNat ∧ c.toNat < 0x110000 := c.valid
  unfold unitsOf
  split
  · rw [List.cons_append, List.nil_append, characters.eq_def]
    dsimp only
    rw [if_neg (by omega), if_neg (by omega), Char.ofNat_toNat]
  · have hcode : 0x10000 + (0xd800 + (c.toNat - 0x10000) / 0x400 - 0xd800) * 0x400 +
        (0xdc00 + (c.toNat - 0x10000) % 0x400 - 0xdc00) = c.toNat := by omega
    rw [List.cons_append, List.cons_append, List.nil_append, characters, if_pos (by omega),
      if_pos (by omega), hcode, Char.ofNat_toNat]

theorem characters_text (chars : List Char) : characters (chars.flatMap unitsOf) = some chars := by
  induction chars with
  | nil => rfl
  | cons c chars ih =>
    rw [List.flatMap_cons, characters_unitsOf, ih]
    rfl

/-- A printed text is read up to the quote that closes it, and no further. -/
theorem readText_printText (value : String) (tail : List Char) :
    ∃ body, printText value ++ tail = '"' :: body ∧ readText body = some (value, tail) := by
  refine ⟨value.toList.flatMap escapeChar ++ '"' :: tail, by simp [printText], ?_⟩
  simp [readText, readUnits_text, characters_text]

/-! ## Numerals read back -/

/-- What follows a numeral does not continue it. -/
def EndsNumeral (rest : List Char) : Prop := ∀ c ∈ rest.head?, isNumeral c = false

theorem endsNumeral_cons {c : Char} (h : isNumeral c = false) (rest : List Char) :
    EndsNumeral (c :: rest) := by
  simp [EndsNumeral, h]

theorem isNumeral_of_mem_toString {n : Int} {c : Char} (h : c ∈ (toString n).toList) :
    isNumeral c = true := by
  rcases toList_toString n h with rfl | hdigit
  · rfl
  · simp [isNumeral, hdigit]

/-- A numeral starts with none of the characters that start another document. -/
theorem ne_of_isNumeral {c d : Char} (h : isNumeral c = true) (hd : isNumeral d = false) :
    c ≠ d := by
  rintro rfl
  rw [h] at hd
  cases hd

theorem isSpacing_of_isNumeral {c : Char} (h : isNumeral c = true) : isSpacing c = false := by
  have hblank : c ≠ ' ' ∧ c ≠ '\n' ∧ c ≠ '\r' ∧ c ≠ '\t' :=
    ⟨ne_of_isNumeral h rfl, ne_of_isNumeral h rfl, ne_of_isNumeral h rfl, ne_of_isNumeral h rfl⟩
  simp [isSpacing, hblank]

/-- The numeral is taken as far as it goes, which is up to what cannot continue it. -/
theorem readInt_toString (n : Int) {rest : List Char} (ends : EndsNumeral rest) :
    readInt ((toString n).toList ++ rest) = some (.int n, rest) := by
  have htake : rest.takeWhile isNumeral = [] := by
    cases rest with
    | nil => rfl
    | cons c rest => rw [List.takeWhile_cons_of_neg]; simp [ends c rfl]
  have hdrop : rest.dropWhile isNumeral = rest := by
    cases rest with
    | nil => rfl
    | cons c rest => rw [List.dropWhile_cons_of_neg]; simp [ends c rfl]
  rw [readInt, List.takeWhile_append_of_pos fun _ => isNumeral_of_mem_toString,
    List.dropWhile_append_of_pos fun _ => isNumeral_of_mem_toString, htake, hdrop,
    List.append_nil, String.ofList_toList]
  simp [show toString n = n.repr from rfl]

/-! ## Spacing -/

theorem skip_cons {c : Char} (h : isSpacing c = false) (rest : List Char) :
    skip (c :: rest) = c :: rest :=
  List.dropWhile_cons_of_neg (by simp [h])

/-- A new line and the spaces that indent it are spacing. -/
theorem skip_newLine (depth : Nat) (rest : List Char) : skip (newLine depth ++ rest) = skip rest := by
  rw [skip, skip, List.dropWhile_append_of_pos]
  intro c hc
  rcases List.mem_cons.mp hc with rfl | hc
  · rfl
  · rw [List.eq_of_mem_replicate hc]
    rfl

theorem length_newLine (depth : Nat) : (newLine depth).length = 2 * depth + 1 := by
  simp [newLine]

/-- Spacing before a document makes no difference. -/
theorem readValue_congr (fuel : Nat) {source other : List Char} (h : skip source = skip other) :
    readValue fuel source = readValue fuel other := by
  cases fuel with
  | zero => rfl
  | succ fuel => rw [readValue, readValue, h]

theorem readValue_newLine (fuel depth : Nat) (source : List Char) :
    readValue fuel (newLine depth ++ source) = readValue fuel source :=
  readValue_congr fuel (skip_newLine depth source)

theorem readValue_space (fuel : Nat) (source : List Char) :
    readValue fuel (' ' :: source) = readValue fuel source :=
  readValue_congr fuel rfl

/-! ## What the first character decides -/

/-- A numeral starts like no other document. -/
theorem readValue_numeral {c : Char} (h : isNumeral c = true) (fuel : Nat) (rest : List Char) :
    readValue (fuel + 1) (c :: rest) = readInt (c :: rest) := by
  have hne : ∀ {d : Char} {tail other : List Char}, isNumeral d = false → c :: tail ≠ d :: other :=
    fun hd heq => ne_of_isNumeral h hd (List.cons.inj heq).1
  have hword : readWord (c :: rest) = none := by
    unfold readWord
    split
    · exact absurd ‹_› (hne rfl)
    · exact absurd ‹_› (hne rfl)
    · exact absurd ‹_› (hne rfl)
    · rfl
  rw [readValue, skip_cons (isSpacing_of_isNumeral h)]
  split
  · exact absurd ‹_› (hne rfl)
  · exact absurd ‹_› (hne rfl)
  · exact absurd ‹_› (hne rfl)
  · rw [hword, Option.none_or]

/-- Past an opening bracket there are items, unless the closing one is next. -/
theorem readValue_list {source : List Char} {c : Char} (head : (skip source).head? = some c)
    (filled : c ≠ ']') (fuel : Nat) :
    readValue (fuel + 1) ('[' :: source) =
      (readItems fuel source).map fun read => (.list read.1, read.2) := by
  obtain ⟨tail, htail⟩ := List.head?_eq_some_iff.mp head
  rw [readValue, skip_cons rfl]
  simp only [htail]
  split
  · exact absurd (List.cons.inj ‹_›).1 filled
  · cases readItems fuel source <;> rfl

/-- Past an opening brace there are fields, unless the closing one is next. -/
theorem readValue_object {source : List Char} {c : Char} (head : (skip source).head? = some c)
    (filled : c ≠ '\x7d') (fuel : Nat) :
    readValue (fuel + 1) ('\x7b' :: source) =
      (readFields fuel source).map fun read => (.object read.1, read.2) := by
  obtain ⟨tail, htail⟩ := List.head?_eq_some_iff.mp head
  rw [readValue, skip_cons rfl]
  simp only [htail]
  split
  · exact absurd (List.cons.inj ‹_›).1 filled
  · cases readFields fuel source <;> rfl

/-- A name stands on a line of its own, with its colon right behind it. -/
theorem readName_printText (depth : Nat) (name : String) (rest : List Char) :
    readName (newLine depth ++ (printText name ++ ':' :: rest)) = some (name, rest) := by
  obtain ⟨body, hprinted, hread⟩ := readText_printText name (':' :: rest)
  rw [readName, skip_newLine, hprinted, skip_cons rfl]
  simp [hread, skip_cons (c := ':') rfl]

/-! ## Documents read back -/

/-- The parts of a printed list in the order in which the reader comes to them. -/
theorem printAt_list (depth : Nat) (item : Json) (items : List Json) :
    printAt depth (.list (item :: items)) = '[' :: (newLine (depth + 1) ++
      (printAt (depth + 1) item ++ (printItems (depth + 1) items ++ (newLine depth ++ [']'])))) := by
  simp [printAt]

theorem printAt_object (depth : Nat) (name : String) (value : Json) (fields : List (String × Json)) :
    printAt depth (.object ((name, value) :: fields)) = '\x7b' :: (newLine (depth + 1) ++
      (printText name ++ ':' :: ' ' :: (printAt (depth + 1) value ++
        (printFields (depth + 1) fields ++ (newLine depth ++ ['\x7d']))))) := by
  simp [printAt]

theorem printItems_cons (depth : Nat) (item : Json) (items : List Json) :
    printItems depth (item :: items) =
      ',' :: (newLine depth ++ (printAt depth item ++ printItems depth items)) := by
  simp [printItems]

theorem printFields_cons (depth : Nat) (name : String) (value : Json)
    (fields : List (String × Json)) :
    printFields depth ((name, value) :: fields) = ',' :: (newLine depth ++
      (printText name ++ ':' :: ' ' :: (printAt depth value ++ printFields depth fields))) := by
  simp [printFields]

/-- After an item there is a comma or a new line, and neither continues a numeral. -/
theorem endsNumeral_items (depth outer : Nat) (items : List Json) (rest : List Char) :
    EndsNumeral (printItems depth items ++ (newLine outer ++ rest)) := by
  cases items <;> exact endsNumeral_cons rfl _

theorem endsNumeral_fields (depth outer : Nat) (fields : List (String × Json)) (rest : List Char) :
    EndsNumeral (printFields depth fields ++ (newLine outer ++ rest)) := by
  cases fields <;> exact endsNumeral_cons rfl _

/-- A printed document starts with a character that is no spacing and does not close a list. -/
theorem printAt_head (depth : Nat) (document : Json) : ∃ c body,
    printAt depth document = c :: body ∧ isSpacing c = false ∧ c ≠ ']' := by
  cases document with
  | null => exact ⟨_, _, rfl, rfl, by decide⟩
  | bool value => cases value <;> exact ⟨_, _, rfl, rfl, by decide⟩
  | int n =>
    obtain ⟨c, body, hhead⟩ := List.exists_cons_of_ne_nil (toString_ne_nil n)
    have hnumeral := isNumeral_of_mem_toString (hhead ▸ List.mem_cons_self)
    exact ⟨c, body, hhead, isSpacing_of_isNumeral hnumeral, ne_of_isNumeral hnumeral rfl⟩
  | text value => exact ⟨_, _, rfl, rfl, by decide⟩
  | list items => cases items <;> exact ⟨_, _, rfl, rfl, by decide⟩
  | object fields => cases fields <;> exact ⟨_, _, rfl, rfl, by decide⟩

-- The induction is on the document; what is printed for an item or a field is shorter than what is
-- printed for all of them, so the fuel does not run out on the way down.
mutual

/-- **A printed document is read back**, whatever follows it, as long as that continues no
numeral. -/
theorem readValue_printAt (depth : Nat) : ∀ (document : Json) (fuel : Nat) (rest : List Char),
    (printAt depth document).length ≤ fuel → EndsNumeral rest →
      readValue fuel (printAt depth document ++ rest) = some (document, rest)
  | document, 0, rest, hfuel, _ => by
    obtain ⟨c, body, hhead, -⟩ := printAt_head depth document
    simp [hhead] at hfuel
  | .null, fuel + 1, rest, _, _ => rfl
  | .bool true, fuel + 1, rest, _, _ => rfl
  | .bool false, fuel + 1, rest, _, _ => rfl
  | .int n, fuel + 1, rest, _, ends => by
    obtain ⟨c, body, hhead⟩ := List.exists_cons_of_ne_nil (toString_ne_nil n)
    have hnumeral := isNumeral_of_mem_toString (hhead ▸ List.mem_cons_self)
    have hread := readInt_toString n ends
    rw [hhead] at hread
    rw [show printAt depth (.int n) = (toString n).toList from rfl, hhead]
    exact (readValue_numeral hnumeral fuel _).trans hread
  | .text value, fuel + 1, rest, _, _ => by
    obtain ⟨body, hprinted, hread⟩ := readText_printText value rest
    rw [readValue, printAt, hprinted, skip_cons rfl]
    simp [hread]
  | .list [], fuel + 1, rest, _, _ => rfl
  | .list (item :: items), fuel + 1, rest, hfuel, _ => by
    rw [printAt_list] at hfuel ⊢
    simp only [List.length_cons, List.length_append] at hfuel
    have hitems := readItems_printItems (depth + 1) depth (item :: items) fuel _ rest
      (printItems_cons ..) (by simp only [List.length_append]; omega)
    obtain ⟨c, body, hhead, hblank, hclose⟩ := printAt_head (depth + 1) item
    simp only [List.cons_append, List.append_assoc, List.nil_append] at hitems ⊢
    rw [readValue_list (by simp [skip_newLine, hhead, skip_cons hblank]) hclose, hitems]
    rfl
  | .object [], fuel + 1, rest, _, _ => rfl
  | .object ((name, value) :: fields), fuel + 1, rest, hfuel, _ => by
    rw [printAt_object] at hfuel ⊢
    simp only [List.length_cons, List.length_append] at hfuel
    have hfields := readFields_printFields (depth + 1) depth ((name, value) :: fields) fuel _ rest
      (printFields_cons ..) (by simp only [List.length_cons, List.length_append]; omega)
    simp only [List.cons_append, List.append_assoc, List.nil_append] at hfields ⊢
    have hhead : (skip (newLine (depth + 1) ++ (printText name ++ ':' :: ' ' ::
        (printAt (depth + 1) value ++ (printFields (depth + 1) fields ++
          (newLine depth ++ '\x7d' :: rest)))))).head? = some '"' := by
      rw [skip_newLine, printText, List.cons_append, List.cons_append, skip_cons rfl]
      rfl
    rw [readValue_object hhead (by decide), hfields]
    rfl

/-- The items after a comma, with as much fuel as there is text. -/
theorem readItems_printItems (depth outer : Nat) : ∀ (items : List Json) (fuel : Nat)
    (body rest : List Char), printItems depth items = ',' :: body → body.length ≤ fuel →
      readItems fuel (body ++ (newLine outer ++ ']' :: rest)) = some (items, rest)
  | [], _, _, _, hprinted, _ => by simp [printItems] at hprinted
  | item :: items, fuel, body, rest, hprinted, hfuel => by
    rw [printItems_cons] at hprinted
    obtain ⟨-, rfl⟩ := List.cons.inj hprinted
    have hline := length_newLine depth
    simp only [List.length_append] at hfuel
    obtain ⟨fuel, rfl⟩ : ∃ less, fuel = less + 1 := ⟨fuel - 1, by omega⟩
    have hvalue := readValue_printAt depth item fuel
      (printItems depth items ++ (newLine outer ++ ']' :: rest)) (by omega)
      (endsNumeral_items depth outer items _)
    simp only [List.append_assoc]
    rw [readItems, readValue_newLine, hvalue]
    cases items with
    | nil => simp [printItems, skip_newLine, skip_cons (c := ']') rfl]
    | cons next more =>
      rw [printItems_cons] at hfuel
      have hmore := readItems_printItems depth outer (next :: more) fuel _ rest
        (printItems_cons ..) (by rw [List.length_cons] at hfuel; omega)
      simp only [List.append_assoc] at hmore
      simp [printItems_cons, skip_cons (c := ',') rfl, hmore]

/-- The fields after a comma, with as much fuel as there is text. -/
theorem readFields_printFields (depth outer : Nat) : ∀ (fields : List (String × Json)) (fuel : Nat)
    (body rest : List Char), printFields depth fields = ',' :: body → body.length ≤ fuel →
      readFields fuel (body ++ (newLine outer ++ '\x7d' :: rest)) = some (fields, rest)
  | [], _, _, _, hprinted, _ => by simp [printFields] at hprinted
  | (name, value) :: fields, fuel, body, rest, hprinted, hfuel => by
    rw [printFields_cons] at hprinted
    obtain ⟨-, rfl⟩ := List.cons.inj hprinted
    have hline := length_newLine depth
    simp only [List.length_cons, List.length_append] at hfuel
    obtain ⟨fuel, rfl⟩ : ∃ less, fuel = less + 1 := ⟨fuel - 1, by omega⟩
    have hvalue := (readValue_space fuel _).trans (readValue_printAt depth value fuel
      (printFields depth fields ++ (newLine outer ++ '\x7d' :: rest)) (by omega)
      (endsNumeral_fields depth outer fields _))
    simp only [List.cons_append, List.append_assoc]
    rw [readFields, readName_printText, Option.bind_eq_bind, Option.bind_some]
    dsimp only
    rw [hvalue]
    cases fields with
    | nil => simp [printFields, skip_newLine, skip_cons (c := '\x7d') rfl]
    | cons next more =>
      rw [printFields_cons] at hfuel
      have hmore := readFields_printFields depth outer (next :: more) fuel _ rest
        (printFields_cons ..) (by rw [List.length_cons] at hfuel; omega)
      simp only [List.cons_append, List.append_assoc] at hmore
      rw [printFields_cons]
      simp [skip_cons (c := ',') rfl, hmore]

end

/-- **What was printed is read back as it was**, with the line feed that ends it. -/
theorem parse?_print (document : Json) : parse? (document.print ++ "\n") = some document := by
  have hlength : (printAt 0 document).length ≤ (document.print ++ "\n").length + 1 := by
    simp [print]
    omega
  have hread := readValue_printAt 0 document _ ['\n'] hlength (endsNumeral_cons rfl _)
  rw [parse?, String.toList_append, print, String.toList_ofList, show "\n".toList = ['\n'] from rfl,
    ← print, hread]
  rfl

end Relaunch.Json
