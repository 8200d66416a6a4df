import ClusterPackages.Json.Document
import ClusterPackages.Json.Write
import ClusterPackages.Proofs.Text.Digit

namespace ClusterPackages.Json

open Text

/-!
# Scanning what was written

* `Json.Fits` — the value has no floating-point numbers, and its arrays and objects nest no deeper
  than a given depth.
* `Document.ofJson` — the document that is found in the text of such a value.
* `scanQuoted_quote`, `scanNumeral_toDigits` — strings and integers are found as they were written.
* `scanValue_write` — so are values, and the scanner stops where the text of the value ends.
-/

/-! ### Values that can be read back -/

mutual

/-- No floating-point number stands in the value, its integers fit 64 bits, signed or unsigned, and
    at most `depth` arrays and objects enclose one another. -/
def Fits : (depth : Nat) → Json → Prop
  | _, .null => True
  | _, .bool _ => True
  | _, .number (.int n) => -Nat.pow 2 63 ≤ n ∧ n < Nat.pow 2 64
  | _, .number (.float _) => False
  | _, .str _ => True
  | 0, .arr _ => False
  | depth + 1, .arr items => FitsItems depth items
  | 0, .obj _ => False
  | depth + 1, .obj fields => FitsFields depth fields

/-- Every one of the values fits. -/
def FitsItems (depth : Nat) : List Json → Prop
  | [] => True
  | v :: rest => Fits depth v ∧ FitsItems depth rest

/-- Every field has a value that fits. -/
def FitsFields (depth : Nat) : List (String × Json) → Prop
  | [] => True
  | (_, v) :: rest => Fits depth v ∧ FitsFields depth rest

end

theorem fitsFields_iff {depth : Nat} {l : List (String × Json)} :
    FitsFields depth l ↔ ∀ e ∈ l, e.2.Fits depth := by
  induction l with
  | nil => simp [FitsFields]
  | cons e rest ih => simp [FitsFields, ih]

/-! ### What is found in their texts -/

/-- A character as it is found in a string: those that are written by their number are found so. -/
def Glyph.ofChar (c : Char) : Glyph :=
  if c.toNat < 0x20 && !(['\n', '\r', '\t', Char.ofNat 0x08, Char.ofNat 0x0C].contains c) then
    .unit c.toNat
  else .char c

/-- A text as it is found in a string. -/
def Quoted.ofText (s : String) : Quoted := s.toList.map Glyph.ofChar

/-- An integer as it is found.  Floating-point numbers are not dealt with. -/
def Numeral.ofNumber : Number → Numeral
  | .int n => ⟨n < 0, Nat.toDigits 10 n.natAbs, none, none⟩
  | .float _ => ⟨false, [], none, none⟩

mutual

/-- The document that is found in the text of a value. -/
def Document.ofJson : Json → Document
  | .null => .null
  | .bool b => .bool b
  | .number n => .number (.ofNumber n)
  | .str s => .str (.ofText s)
  | .arr items => .arr (ofItems items)
  | .obj fields => .obj (ofFields fields)

/-- The documents of the items of an array. -/
def Document.ofItems : List Json → List Document
  | [] => []
  | v :: rest => ofJson v :: ofItems rest

/-- The documents of the fields of an object. -/
def Document.ofFields : List (String × Json) → List (Quoted × Document)
  | [] => []
  | (k, v) :: rest => (.ofText k, ofJson v) :: ofFields rest

end

/-! ### Strings -/

/-- The two digits of a control character are read as its number. -/
theorem hex4?_hexChar : ∀ n < 0x20,
    hex4? '0' '0' (hexChar (n / 16)) (hexChar (n % 16)) = some n := by decide

section

variable (r : List Sym)

theorem scanQuoted_end : scanQuoted (some '"' :: r) = some ([], r) := by
  rw [scanQuoted.eq_def]
  simp only [if_true]

/-- An escape of two characters is found as the character that it stands for. -/
theorem scanQuoted_letter {e c : Char} (he : e ≠ 'u') (h : unescape? e = some c) :
    scanQuoted (some '\\' :: some e :: r) = push (.char c) (scanQuoted r) := by
  rw [scanQuoted.eq_def]
  simp [he, h]

/-- An escape with the number of a control character is found as that number. -/
theorem scanQuoted_unit {n : Nat} (h : n < 0x20) :
    scanQuoted (some '\\' :: some 'u' :: some '0' :: some '0' :: some (hexChar (n / 16)) ::
      some (hexChar (n % 16)) :: r) = push (.unit n) (scanQuoted r) := by
  rw [scanQuoted.eq_def]
  simp [hex4?_hexChar n h]

/-- A character that needs no escape is found as it is. -/
theorem scanQuoted_plain {c : Char} (hquote : c ≠ '"') (hbackslash : c ≠ '\\')
    (hcontrol : ¬ c.toNat < 0x20) :
    scanQuoted (some c :: r) = push (.char c) (scanQuoted r) := by
  rw [scanQuoted.eq_def]
  simp only [if_neg hquote, if_neg hbackslash, if_neg hcontrol]

/-- A character is found as it was written. -/
theorem scanQuoted_escapeChar (c : Char) :
    scanQuoted ((escapeChar c).map some ++ r) = push (.ofChar c) (scanQuoted r) := by
  by_cases hquote : c = '"'
  · subst hquote
    exact scanQuoted_letter r (by decide) rfl
  by_cases hbackslash : c = '\\'
  · subst hbackslash
    exact scanQuoted_letter r (by decide) rfl
  by_cases hfeed : c = '\n'
  · subst hfeed
    exact scanQuoted_letter r (by decide) rfl
  by_cases hreturn : c = '\r'
  · subst hreturn
    exact scanQuoted_letter r (by decide) rfl
  by_cases htab : c = '\t'
  · subst htab
    exact scanQuoted_letter r (by decide) rfl
  by_cases hback : c = Char.ofNat 0x08
  · subst hback
    exact scanQuoted_letter r (by decide) rfl
  by_cases hform : c = Char.ofNat 0x0C
  · subst hform
    exact scanQuoted_letter r (by decide) rfl
  have hback' : c.toNat ≠ 0x08 := fun h => hback (by rw [← h, Char.ofNat_toNat])
  have hform' : c.toNat ≠ 0x0C := fun h => hform (by rw [← h, Char.ofNat_toNat])
  unfold escapeChar Glyph.ofChar
  -- All other characters below the space are written by their numbers.
  by_cases hcontrol : c.toNat < 0x20
  · simp [hquote, hbackslash, hfeed, hreturn, htab, hback, hback', hform, hform', hcontrol,
      scanQuoted_unit r hcontrol]
  · simp [hquote, hbackslash, hfeed, hreturn, htab, hback', hform', hcontrol,
      scanQuoted_plain r hquote hbackslash hcontrol]

end

/-- A string is found as it was written. -/
theorem scanQuoted_quote (s : String) (r : List Sym) :
    scanQuoted ((s.toList.flatMap escapeChar ++ ['"']).map some ++ r) =
      some (Quoted.ofText s, r) := by
  have hchars : ∀ cs : List Char,
      scanQuoted ((cs.flatMap escapeChar ++ ['"']).map some ++ r) =
        some (cs.map Glyph.ofChar, r) := by
    intro cs
    induction cs with
    | nil => exact scanQuoted_end r
    | cons c cs ih =>
      rw [List.flatMap_cons, List.append_assoc, List.map_append, List.append_assoc,
        scanQuoted_escapeChar, ih]
      rfl
  exact hchars s.toList

/-! ### Integers -/

/-- What may come after a value: nothing, a comma, or a closing bracket or brace. -/
def Stops (rest : List Sym) : Prop :=
  ∀ c r, rest = some c :: r → c = ',' ∨ c = ']' ∨ c = '\x7d'

theorem stops_nil : Stops [] := fun _ _ h => by cases h

theorem stops_cons {c : Char} (h : c = ',' ∨ c = ']' ∨ c = '\x7d') (r : List Sym) :
    Stops (some c :: r) := fun c' r' heq => by
  cases heq
  exact h

/-- Digits are taken up to where the value ends. -/
theorem scanDigits_append {ds : List Char} (hds : ∀ c ∈ ds, isDigit c = true) {rest : List Sym}
    (hrest : Stops rest) : scanDigits (ds.map some ++ rest) = (ds, rest) := by
  induction ds with
  | nil =>
    cases rest with
    | nil => rfl
    | cons s r =>
      cases s with
      | none => rfl
      | some c =>
        -- What stops a value is no digit.
        have hc : isDigit c = false := by
          rcases hrest c r rfl with rfl | rfl | rfl <;> decide
        simp [scanDigits, hc]
  | cons c ds ih =>
    have hc := hds c List.mem_cons_self
    have hrec := ih fun d hd => hds d (List.mem_cons_of_mem c hd)
    simp [scanDigits, hc, hrec]

/-- The decimal digits of a natural number are all taken, since a zero leads them only where it is
    alone. -/
theorem scanWhole_toDigits (n : Nat) {rest : List Sym} (hrest : Stops rest) :
    scanWhole ((Nat.toDigits 10 n).map some ++ rest) = some (Nat.toDigits 10 n, rest) := by
  rw [scanWhole, scanDigits_append (isDigit_toDigits n) hrest]
  split
  · rename_i heq
    exact absurd (congrArg Prod.fst heq) Nat.toDigits_ne_nil
  · rename_i d ds _ heq
    have hdigits : Nat.toDigits 10 n = '0' :: d :: ds := congrArg Prod.fst heq
    -- A number of several digits is positive.
    by_cases hlt : n < 10
    · have hlength := congrArg List.length hdigits
      rw [Nat.toDigits_of_lt_base hlt] at hlength
      simp at hlength
    · exact absurd (by rw [hdigits]; rfl) (head?_toDigits (n := n) (by omega))
  · rfl

/-- The decimal digits of a natural number are taken as a numeral without a fraction and an
    exponent. -/
theorem scanNumeral_toDigits (negative : Bool) (n : Nat) {rest : List Sym} (hrest : Stops rest) :
    scanNumeral negative ((Nat.toDigits 10 n).map some ++ rest) =
      some (⟨negative, Nat.toDigits 10 n, none, none⟩, rest) := by
  have hend : scanFraction rest = some (none, rest) ∧ scanExponent rest = some (none, rest) := by
    cases rest with
    | nil => exact ⟨rfl, rfl⟩
    | cons s r =>
      cases s with
      | none => exact ⟨rfl, rfl⟩
      | some c => rcases hrest c r rfl with rfl | rfl | rfl <;> exact ⟨rfl, rfl⟩
  obtain ⟨hfraction, hexponent⟩ := hend
  simp [scanNumeral, scanWhole_toDigits n hrest, hfraction, hexponent]

/-! ### Steps of the scanner -/

/-- A literal name is found by its characters, whatever comes after it. -/
theorem scanWord_append (word : List Char) (v : Document) (rest : List Sym) :
    scanWord word v (word.map some ++ rest) = some (v, rest) := by
  have hdrop : (word.map some ++ rest).drop word.length = rest := by
    rw [List.drop_append_of_le_length (by simp)]
    simp
  rw [scanWord, if_pos (List.prefix_append _ _), hdrop]

/-- What does not start with white space is looked at as it is. -/
theorem skipSpace_cons {c : Char} (h : isSpace (some c) = false) (r : List Sym) :
    skipSpace (some c :: r) = some c :: r := by
  rw [skipSpace, List.dropWhile_cons_of_neg (by rw [h]; decide)]

theorem isSpace_of_isDigit {c : Char} (h : isDigit c = true) : isSpace (some c) = false := by
  cases hspace : isSpace (some c) with
  | false => rfl
  | true =>
    simp only [isSpace, Bool.or_eq_true, beq_iff_eq, Option.some.injEq] at hspace
    rcases hspace with ((rfl | rfl) | rfl) | rfl <;> cases h

section

variable {fuel : Nat} {r r' rest : List Sym} {v : Document}

/-- A value that starts with a digit is a numeral. -/
theorem scanValue_digit {c : Char} (h : isDigit c = true) (fuel : Nat) (r : List Sym) :
    scanValue (fuel + 1) (some c :: r) =
      (scanNumeral false (some c :: r)).map fun (n, rest) => (.number n, rest) := by
  rw [scanValue, skipSpace_cons (isSpace_of_isDigit h)]
  split <;> first
    | rfl
    | (rename_i heq; cases heq; cases h)

/-- A value that starts with a minus is a negative numeral. -/
theorem scanValue_minus {n : Numeral} (h : scanNumeral true r = some (n, rest)) :
    scanValue (fuel + 1) (some '-' :: r) = some (.number n, rest) := by
  rw [scanValue, skipSpace_cons rfl]
  simp [h]

theorem scanValue_string {q : Quoted} (h : scanQuoted r = some (q, rest)) :
    scanValue (fuel + 1) (some '"' :: r) = some (.str q, rest) := by
  rw [scanValue, skipSpace_cons rfl]
  simp [h]

/-- An array that has items is scanned item by item. -/
theorem scanValue_items {c : Char} {items : List Document} (hspace : isSpace (some c) = false)
    (hclose : c ≠ ']') (h : scanItems fuel (some c :: r) = some (items, rest)) :
    scanValue (fuel + 1) (some '[' :: some c :: r) = some (.arr items, rest) := by
  have hopen : skipSpace (some '[' :: some c :: r) = some '[' :: some c :: r := skipSpace_cons rfl _
  simp [scanValue, hopen, skipSpace_cons hspace, hclose, h]

/-- An object that has fields is scanned field by field. -/
theorem scanValue_fields {fields : List (Quoted × Document)}
    (h : scanFields fuel (some '"' :: r) = some (fields, rest)) :
    scanValue (fuel + 1) (some '\x7b' :: some '"' :: r) = some (.obj fields, rest) := by
  have hopen : skipSpace (some '\x7b' :: some '"' :: r) = some '\x7b' :: some '"' :: r :=
    skipSpace_cons rfl _
  have hkey : skipSpace (some '"' :: r) = some '"' :: r := skipSpace_cons rfl r
  simp [scanValue, hopen, hkey, h]

/-- A value before a closing bracket is the last item. -/
theorem scanItems_last (h : scanValue fuel r = some (v, some ']' :: rest)) :
    scanItems (fuel + 1) r = some ([v], rest) := by
  have hclose : skipSpace (some ']' :: rest) = some ']' :: rest := skipSpace_cons rfl rest
  simp [scanItems, h, hclose]

/-- A value before a comma is an item before others. -/
theorem scanItems_more {items : List Document} (h : scanValue fuel r = some (v, some ',' :: r'))
    (hmore : scanItems fuel r' = some (items, rest)) :
    scanItems (fuel + 1) r = some (v :: items, rest) := by
  have hcomma : skipSpace (some ',' :: r') = some ',' :: r' := skipSpace_cons rfl r'
  simp [scanItems, h, hcomma, hmore]

section

variable {q : Quoted} {r₂ : List Sym} (hkey : scanQuoted r = some (q, some ':' :: r₂))

include hkey

/-- A field before a closing brace is the last one. -/
theorem scanFields_last (h : scanValue fuel r₂ = some (v, some '\x7d' :: rest)) :
    scanFields (fuel + 1) (some '"' :: r) = some ([(q, v)], rest) := by
  have hquote : skipSpace (some '"' :: r) = some '"' :: r := skipSpace_cons rfl r
  have hcolon : skipSpace (some ':' :: r₂) = some ':' :: r₂ := skipSpace_cons rfl r₂
  have hclose : skipSpace (some '\x7d' :: rest) = some '\x7d' :: rest := skipSpace_cons rfl rest
  simp [scanFields, hquote, hkey, hcolon, h, hclose]

/-- A field before a comma is one before others. -/
theorem scanFields_more {fields : List (Quoted × Document)}
    (h : scanValue fuel r₂ = some (v, some ',' :: r'))
    (hmore : scanFields fuel r' = some (fields, rest)) :
    scanFields (fuel + 1) (some '"' :: r) = some ((q, v) :: fields, rest) := by
  have hquote : skipSpace (some '"' :: r) = some '"' :: r := skipSpace_cons rfl r
  have hcolon : skipSpace (some ':' :: r₂) = some ':' :: r₂ := skipSpace_cons rfl r₂
  have hcomma : skipSpace (some ',' :: r') = some ',' :: r' := skipSpace_cons rfl r'
  simp [scanFields, hquote, hkey, hcolon, h, hcomma, hmore]

end

end

/-! ### Values -/

/-- The text of a value starts neither with white space nor with a closing bracket. -/
theorem write_starts {depth : Nat} {v : Json} (h : v.Fits depth) :
    ∃ c cs, write v = c :: cs ∧ isSpace (some c) = false ∧ c ≠ ']' := by
  cases v with
  | null => exact ⟨'n', _, rfl, rfl, by decide⟩
  | bool b =>
    cases b with
    | true => exact ⟨'t', _, rfl, rfl, by decide⟩
    | false => exact ⟨'f', _, rfl, rfl, by decide⟩
  | number n =>
    cases n with
    | int n =>
      by_cases hneg : n < 0
      · exact ⟨'-', _, if_pos hneg, rfl, by decide⟩
      · have hwrite : write (.number (.int n)) = Nat.toDigits 10 n.natAbs := if_neg hneg
        obtain ⟨c, cs, hcs, hdigit⟩ := exists_toDigits_cons n.natAbs
        refine ⟨c, cs, hwrite.trans hcs, isSpace_of_isDigit hdigit, ?_⟩
        rintro rfl
        cases hdigit
    | float x => exact h.elim
  | str s => exact ⟨'"', _, rfl, rfl, by decide⟩
  | arr items => cases items <;> exact ⟨'[', _, rfl, rfl, by decide⟩
  | obj fields => cases fields <;> exact ⟨'\x7b', _, rfl, rfl, by decide⟩

/-- An integer is found as it was written. -/
theorem scanValue_writeInt (n : Int) (fuel : Nat) {rest : List Sym} (hrest : Stops rest) :
    scanValue (fuel + 1) ((writeInt n).map some ++ rest) =
      some (.number (.ofNumber (.int n)), rest) := by
  by_cases hneg : n < 0
  · rw [writeInt, if_pos hneg]
    have hscan := scanNumeral_toDigits true n.natAbs hrest
    rw [List.map_cons, List.cons_append, scanValue_minus hscan]
    simp [Numeral.ofNumber, hneg]
  · rw [writeInt, if_neg hneg]
    have h := scanNumeral_toDigits false n.natAbs hrest
    obtain ⟨c, cs, hcs, hdigit⟩ := exists_toDigits_cons n.natAbs
    have hfalse : decide (n < 0) = false := decide_eq_false hneg
    rw [Numeral.ofNumber, hfalse]
    rw [hcs, List.map_cons, List.cons_append] at h ⊢
    rw [scanValue_digit hdigit, h]
    rfl

/-- The text of a field, taken apart where the scanner does. -/
theorem map_field (k : String) (cs tail : List Char) (rest : List Sym) :
    (quote k ++ ':' :: cs ++ tail).map some ++ rest =
      some '"' :: ((k.toList.flatMap escapeChar ++ ['"']).map some ++
        some ':' :: (cs.map some ++ (tail.map some ++ rest))) := by
  simp [quote]

mutual

/-- The document of a value is found in its text, and nothing after it is touched. -/
theorem scanValue_write : ∀ {depth : Nat} (v : Json), v.Fits depth → ∀ (fuel : Nat)
    (rest : List Sym), 2 * (write v).length ≤ fuel → Stops rest →
    scanValue fuel ((write v).map some ++ rest) = some (Document.ofJson v, rest)
  | _, v, hv, 0, _, hfuel, _ => by
    -- No text of a value is empty.
    obtain ⟨c, cs, hcs, -⟩ := write_starts hv
    rw [hcs, List.length_cons] at hfuel
    omega
  | _, .null, _, _ + 1, rest, _, _ => scanWord_append ['u', 'l', 'l'] .null rest
  | _, .bool true, _, _ + 1, rest, _, _ => scanWord_append ['r', 'u', 'e'] (.bool true) rest
  | _, .bool false, _, _ + 1, rest, _, _ =>
    scanWord_append ['a', 'l', 's', 'e'] (.bool false) rest
  | _, .number (.int n), _, fuel + 1, _, _, hrest => scanValue_writeInt n fuel hrest
  | _, .str s, _, _ + 1, rest, _, _ => scanValue_string (scanQuoted_quote s rest)
  | _, .arr [], _, _ + 1, _, _, _ => rfl
  | _, .obj [], _, _ + 1, _, _, _ => rfl
  | depth + 1, .arr (v :: items), ⟨hv, hitems⟩, fuel + 1, rest, hfuel, _ => by
    -- The scanner looks for the closing bracket first, which is not there.
    obtain ⟨c, cs, hcs, hspace, hclose⟩ := write_starts hv
    have hscan := scanItems_write v items hv hitems fuel rest (by
      simp only [write, List.cons_append, List.length_cons] at hfuel
      omega)
    have hwrite : write (.arr (v :: items)) = '[' :: c :: (cs ++ writeItems items) := by
      rw [write, hcs]
      rfl
    rw [hcs] at hscan
    rw [hwrite]
    exact scanValue_items hspace hclose hscan
  | depth + 1, .obj ((k, v) :: fields), ⟨hv, hfields⟩, fuel + 1, rest, hfuel, _ => by
    have hscan := scanFields_write k v fields hv hfields fuel rest (by
      simp only [write, List.length_append, List.length_cons] at hfuel ⊢
      omega)
    exact scanValue_fields hscan
termination_by _ v => sizeOf v

/-- The documents of items are found up to and with the closing bracket. -/
theorem scanItems_write : ∀ {depth : Nat} (v : Json) (items : List Json), v.Fits depth →
    FitsItems depth items → ∀ (fuel : Nat) (rest : List Sym),
    2 * (write v ++ writeItems items).length + 1 ≤ fuel →
    scanItems fuel ((write v ++ writeItems items).map some ++ rest) =
      some (Document.ofItems (v :: items), rest)
  | _, _, _, _, _, 0, _, hfuel => by omega
  | _, v, [], hv, _, fuel + 1, rest, hfuel => by
    rw [List.length_append] at hfuel
    rw [List.map_append, List.append_assoc]
    exact scanItems_last (scanValue_write v hv fuel _ (by omega) (stops_cons (by simp) rest))
  | _, v, v' :: items, hv, ⟨hv', hitems⟩, fuel + 1, rest, hfuel => by
    rw [List.length_append] at hfuel
    rw [List.map_append, List.append_assoc]
    refine scanItems_more (scanValue_write v hv fuel _ (by omega) (stops_cons (by simp) _)) ?_
    exact scanItems_write v' items hv' hitems fuel rest (by
      simp only [writeItems, List.length_append, List.length_cons] at hfuel ⊢
      omega)
termination_by _ v items => sizeOf v + sizeOf items

/-- The documents of fields are found up to and with the closing brace. -/
theorem scanFields_write : ∀ {depth : Nat} (k : String) (v : Json) (fields : List (String × Json)),
    v.Fits depth → FitsFields depth fields → ∀ (fuel : Nat) (rest : List Sym),
    2 * (write v ++ writeFields fields).length + 1 ≤ fuel →
    scanFields fuel ((quote k ++ ':' :: write v ++ writeFields fields).map some ++ rest) =
      some (Document.ofFields ((k, v) :: fields), rest)
  | _, _, _, _, _, _, 0, _, hfuel => by omega
  | _, k, v, [], hv, _, fuel + 1, rest, hfuel => by
    rw [List.length_append] at hfuel
    have hvalue := scanValue_write v hv fuel ((writeFields []).map some ++ rest) (by omega)
      (stops_cons (by simp) rest)
    rw [map_field]
    exact scanFields_last (scanQuoted_quote k _) hvalue
  | _, k, v, (k', v') :: fields, hv, ⟨hv', hfields⟩, fuel + 1, rest, hfuel => by
    rw [List.length_append] at hfuel
    have hvalue := scanValue_write v hv fuel ((writeFields ((k', v') :: fields)).map some ++ rest)
      (by omega) (stops_cons (by simp) _)
    rw [map_field]
    refine scanFields_more (scanQuoted_quote k _) hvalue ?_
    exact scanFields_write k' v' fields hv' hfields fuel rest (by
      simp only [writeFields, List.length_append, List.length_cons] at hfuel ⊢
      omega)
termination_by _ _ v fields => sizeOf v + sizeOf fields

end

/-- The document of a value is what its text reads as. -/
theorem read?_compact {depth : Nat} {v : Json} (hv : v.Fits depth) :
    Document.read? (Utf8.symbols v.compact) = some (Document.ofJson v) := by
  have htext : Utf8.symbols v.compact = (write v).map some := by
    rw [Utf8.symbols, compact, String.toList_ofList]
  have hscan := scanValue_write v hv (2 * (Utf8.symbols v.compact).length + 2) []
    (by rw [htext, List.length_map]; omega) stops_nil
  rw [List.append_nil, ← htext] at hscan
  rw [Document.read?, hscan]
  rfl

end ClusterPackages.Json
