import GridLoad.Model.Stored
import GridLoad.Proofs.Decimal.Bounded
import GridLoad.Proofs.Json.Written
import GridLoad.Proofs.Table

/-!
Values are read back from their documents: texts, doubles and words, and the lists, tables and records of them, as long as
each double is what is read for its text.
-/

set_option autoImplicit false

namespace GridLoad.Json

open GridLoad.Text
open GridLoad.Decimal (Spelling)

-- A document that can be read as it is written, and that can be held before its kind is known.
structure Sound (levels : Nat) (j : Json) : Prop where
  legible : Legible j
  unmarked : strayMark ∉ chars j
  held : holdable j = true
  shallow : depth j ≤ levels

-- A document of a value.
structure Keeps {α : Type} (item : Decoder α) (levels : Nat) (j : Json) (a : α) : Prop where
  sound : Sound levels j
  read : item j = some a

-- A finite double that is read for its text.
structure Storable (x : Float) : Prop where
  finite : x.isFinite = true
  read : floatOf? (Decimal.stored.write x).toList = some x

instance (x : Float) : Decidable (Storable x) :=
  decidable_of_iff (x.isFinite = true ∧ floatOf? (Decimal.stored.write x).toList = some x)
    ⟨fun both => ⟨both.1, both.2⟩, fun storable => ⟨storable.finite, storable.read⟩⟩

section

variable {α : Type} {item : Decoder α} {encode : α → Json} {levels : Nat}

/-! ## Texts -/

theorem digits_unmarked {digits : List Char} (all : Digits digits) : strayMark ∉ digits := fun member =>
  absurd (all _ member) (by decide)

theorem escaped_unmarked {c : Char} {lexeme : Lexeme} (escaped : EscapedAs c lexeme) : strayMark ∉ lexeme := by
  cases escaped with
  | letter e means other =>
      have marked : strayMark ≠ e := by
        rintro rfl
        cases means
      simp [marked, show strayMark ≠ '\\' by decide]
  | number small =>
      have hex : ∀ n < 16, strayMark ≠ Nat.digitChar n := by decide
      simp [hex (c.toNat / 16) (by omega), hex (c.toNat % 16) (by omega), show strayMark ≠ '\\' by decide,
        show strayMark ≠ 'u' by decide, show strayMark ≠ '0' by decide]
  | plain large quote stroke =>
      have marked : strayMark ≠ c := by
        rintro rfl
        exact absurd large (by decide)
      simp [marked]

theorem escape_unmarked (text : String) : strayMark ∉ escape text := by
  intro member
  obtain ⟨c, _, inside⟩ := List.mem_flatMap.mp member
  exact escaped_unmarked (escaped_as c) inside

theorem quoted_unmarked {lexeme : Lexeme} (unmarked : strayMark ∉ lexeme) : strayMark ∉ quotedLexeme lexeme := by
  simp [quotedLexeme, unmarked, show strayMark ≠ '"' by decide]

theorem str_sound (levels : Nat) (text : String) : Sound levels (str text) where
  legible := str_legible text
  unmarked := quoted_unmarked (escape_unmarked text)
  held := by
    have means := escape_means text
    obtain ⟨_, means, _⟩ := Option.map_eq_some_iff.mp means
    simp [str, holdable, means]
  shallow := Nat.zero_le levels

theorem text_keeps (levels : Nat) (text : String) : Keeps toText? levels (str text) text :=
  ⟨str_sound levels text, escape_means text⟩

/-! ## Numbers -/

theorem spelling_unmarked {s : Spelling} (proper : s.Proper) (negative : Bool) :
    strayMark ∉ (if negative then ['-'] else []) ++ s.text := by
  have sign : strayMark ∉ (if negative then ['-'] else []) := by cases negative <;> decide
  have fraction : strayMark ∉ s.fractionText := by
    unfold Spelling.fractionText
    split
    · simp
    · simp [digits_unmarked proper.fraction, show strayMark ≠ '.' by decide]
  have exponent : strayMark ∉ s.exponentPart := by
    unfold Spelling.exponentPart
    split
    · simp
    · rename_i e _
      have digits := digits_unmarked (written_digits e.natAbs)
      split <;> simp [Decimal.digitsOf, digits, show strayMark ≠ 'e' by decide, show strayMark ≠ '-' by decide,
        show strayMark ≠ '+' by decide]
  simp [Spelling.text, sign, digits_unmarked proper.whole, fraction, exponent]

theorem float_keeps (levels : Nat) {x : Float} (storable : Storable x) : Keeps toFloat? levels (float x) x := by
  have written : float x = .number (Decimal.stored.write x).toList := if_pos storable.finite
  refine ⟨⟨float_legible x, ?_, ?_, ?_⟩, ?_⟩
  · rw [written, chars, Decimal.write_finite storable.finite]
    exact spelling_unmarked (Decimal.binary_proper (Decimal.binary_canonical x)) _
  · rw [written, holdable, storable.read]
    rfl
  · rw [written]
    exact Nat.zero_le levels
  · rw [written]
    exact storable.read

theorem nat_legible (n : Nat) : Legible (nat n) := by
  have reads := spelling_reads (Decimal.of_nat_proper n) false
  rw [Decimal.of_nat_text] at reads
  exact reads

theorem integer_of_nat (n : Nat) : integerOf? (Nat.toDigits 10 n) = some (n : Int) := by
  have numeral : Numeral.ofLexeme (Nat.toDigits 10 n) = ⟨false, Nat.toDigits 10 n, [], none, true⟩ :=
    Decimal.numeral_of_nat n
  simp [integerOf?, numeral, nat_of_written]

theorem word_keeps (levels : Nat) {bits n : Nat} (fits : n < wordLimit bits) (word : bits ≤ 64) :
    Keeps (toWord? bits) levels (nat n) n := by
  have held : n < wordLimit 64 := fits.trans_le (Nat.pow_le_pow_right (by decide) word)
  refine ⟨⟨nat_legible n, digits_unmarked (written_digits n), word_held held, Nat.zero_le levels⟩, ?_⟩
  have inside : (0 : Int) ≤ n ∧ (n : Int) ≤ (wordLimit bits : Int) - 1 := by omega
  simp only [toWord?, nat, toInteger?, integer_of_nat, if_pos inside, Option.map_some, Int.toNat_natCast]

/-! ## Options and lists -/

theorem null_sound (levels : Nat) : Sound levels .null := ⟨trivial, by decide, rfl, Nat.zero_le levels⟩

-- A value whose document is not null may be left out.
theorem option_keeps {o : Option α} (solid : item .null = none)
    (each : ∀ a, o = some a → Keeps item levels (encode a) a) :
    Keeps (toOption? item) levels (option encode o) o := by
  cases o with
  | none => exact ⟨null_sound levels, rfl⟩
  | some a =>
      have keeps := each a rfl
      refine ⟨keeps.sound, ?_⟩
      have read := keeps.read
      rw [option]
      cases document : encode a with
      | null =>
          rw [document, solid] at read
          cases read
      | _ =>
          rw [document] at read
          simp only [toOption?, read, Option.map_some]

theorem text_option_keeps (levels : Nat) (o : Option String) : Keeps (toOption? toText?) levels (option str o) o :=
  option_keeps rfl fun text _ => text_keeps levels text

theorem items_unmarked {items : List Json} (each : ∀ j ∈ items, strayMark ∉ chars j) : strayMark ∉ itemChars items := by
  induction items with
  | nil => simp [itemChars]
  | cons j rest ih =>
      have first := each j List.mem_cons_self
      have others := ih fun other member => each other (List.mem_cons_of_mem _ member)
      cases rest with
      | nil => simpa [itemChars] using first
      | cons next rest => simp [itemChars, first, others, show strayMark ≠ ',' by decide]

theorem array_sound {items : List Json} (each : ∀ j ∈ items, Sound levels j) : Sound (levels + 1) (.array items) where
  legible := by
    show ItemsLegible items
    induction items with
    | nil => trivial
    | cons j rest ih =>
        exact ⟨(each j List.mem_cons_self).legible, ih fun other member => each other (List.mem_cons_of_mem _ member)⟩
  unmarked := by
    have inside := items_unmarked fun j member => (each j member).unmarked
    simp [chars, inside, show strayMark ≠ '[' by decide, show strayMark ≠ ']' by decide]
  held := by
    show itemsHoldable items = true
    induction items with
    | nil => rfl
    | cons j rest ih =>
        rw [itemsHoldable, (each j List.mem_cons_self).held,
          ih fun other member => each other (List.mem_cons_of_mem _ member)]
        rfl
  shallow := by
    show itemsDepth items + 1 ≤ levels + 1
    induction items with
    | nil => exact Nat.succ_le_succ (Nat.zero_le _)
    | cons j rest ih =>
        have others := ih fun other member => each other (List.mem_cons_of_mem _ member)
        have first := (each j List.mem_cons_self).shallow
        rw [itemsDepth]
        omega

theorem mapM_read {β : Type} {f : α → β} {g : β → Option α} {l : List α} (each : ∀ a ∈ l, g (f a) = some a) :
    (l.map f).mapM g = some l := by
  induction l with
  | nil => rfl
  | cons a rest ih =>
      rw [List.map_cons, List.mapM_cons, each a List.mem_cons_self,
        ih fun other member => each other (List.mem_cons_of_mem _ member)]
      rfl

theorem list_keeps {l : List α} (each : ∀ a ∈ l, Keeps item levels (encode a) a) :
    Keeps (toList? item) (levels + 1) (.array (l.map encode)) l := by
  refine ⟨array_sound ?_, mapM_read fun a member => (each a member).read⟩
  intro j member
  obtain ⟨a, inside, rfl⟩ := List.mem_map.mp member
  exact (each a inside).sound

/-! ## Records and tables -/

theorem fields_unmarked {fields : List (Lexeme × Json)}
    (each : ∀ f ∈ fields, strayMark ∉ f.1 ∧ strayMark ∉ chars f.2) : strayMark ∉ fieldChars fields := by
  induction fields with
  | nil => simp [fieldChars]
  | cons f rest ih =>
      obtain ⟨name, value⟩ := f
      have first := each _ List.mem_cons_self
      have key := quoted_unmarked first.1
      have others := ih fun other member => each other (List.mem_cons_of_mem _ member)
      cases rest with
      | nil => simp [fieldChars, key, first.2, show strayMark ≠ ':' by decide]
      | cons next rest =>
          simp [fieldChars, key, first.2, others, show strayMark ≠ ':' by decide, show strayMark ≠ ',' by decide]

theorem record_sound {fields : List (String × Json)} (each : ∀ f ∈ fields, Sound levels f.2) :
    Sound (levels + 1) (record fields) where
  legible := record_legible fun f member => (each f member).legible
  unmarked := by
    have inside : strayMark ∉ fieldChars (fields.map fun f => (escape f.1, f.2)) := by
      apply fields_unmarked
      intro f member
      obtain ⟨g, there, rfl⟩ := List.mem_map.mp member
      exact ⟨escape_unmarked g.1, (each g there).unmarked⟩
    simp [record, chars, inside, show strayMark ≠ '\x7b' by decide, show strayMark ≠ '\x7d' by decide]
  held := by
    show fieldsHoldable (fields.map fun f => (escape f.1, f.2)) = true
    induction fields with
    | nil => rfl
    | cons f rest ih =>
        obtain ⟨_, name, _⟩ := Option.map_eq_some_iff.mp (escape_means f.1)
        rw [List.map_cons, fieldsHoldable, name, (each f List.mem_cons_self).held,
          ih fun other member => each other (List.mem_cons_of_mem _ member)]
        rfl
  shallow := by
    show fieldsDepth (fields.map fun f => (escape f.1, f.2)) + 1 ≤ levels + 1
    induction fields with
    | nil => exact Nat.succ_le_succ (Nat.zero_le _)
    | cons f rest ih =>
        have others := ih fun other member => each other (List.mem_cons_of_mem _ member)
        have first := (each f List.mem_cons_self).shallow
        rw [List.map_cons, fieldsDepth]
        omega

theorem collect_record {names : List String} {strict : Bool} {fields given : List (String × Json)}
    (known : ∀ f ∈ fields, f.1 ∈ names) (once : ((given ++ fields).map (·.1)).Nodup) :
    Record.collect names strict (fields.map fun f => (escape f.1, f.2)) given = some (given ++ fields) := by
  induction fields generalizing given with
  | nil => simp [Record.collect]
  | cons f rest ih =>
      have named : names.contains f.1 = true := by simpa using known f List.mem_cons_self
      have fresh : (given.any fun g => decide (g.1 = f.1)) = false := by
        rw [List.map_append, List.nodup_append] at once
        simp only [List.any_eq_false, decide_eq_true_eq]
        intro g member same
        exact once.2.2 g.1 (List.mem_map_of_mem member) f.1 (by simp) same
      rw [List.map_cons, Record.collect, escape_means]
      simp only [Option.bind_eq_bind, Option.bind_some, named, fresh, if_true, Bool.false_eq_true, if_false]
      rw [ih (fun other member => known other (List.mem_cons_of_mem _ member)) (by simpa using once)]
      simp

-- A record is given the fields that are written, whether unknown ones are refused or not.
theorem record_read {names : List String} {strict : Bool} {fields : List (String × Json)}
    (named : fields.map (·.1) = names) (once : names.Nodup) :
    Record.ofFields? names strict (record fields) = some ⟨false, fields⟩ := by
  have collected : Record.collect names strict (fields.map fun f => (escape f.1, f.2)) [] = some ([] ++ fields) :=
    collect_record (fun f member => named ▸ List.mem_map_of_mem member) (by simpa [named] using once)
  simp only [Record.ofFields?, record, collected, Option.map_some, List.nil_append]

-- A record is read back if its fields are.
theorem record_keeps {names : List String} {strict : Bool} {fields : List (String × Json)} {a : α}
    {next : Record → Option α} (each : ∀ f ∈ fields, Sound levels f.2) (named : fields.map (·.1) = names)
    (once : names.Nodup) (read : next ⟨false, fields⟩ = some a) :
    Keeps (fun j => Record.ofFields? names strict j >>= next) (levels + 1) (record fields) a := by
  refine ⟨record_sound each, ?_⟩
  simp only [record_read named once, Option.bind_eq_bind, Option.bind_some, read]

-- A field that stands first, and one that comes later.
@[simp] theorem value_here (name : String) (j : Json) (rest : List (String × Json)) :
    Record.value? ⟨false, (name, j) :: rest⟩ name = some j := by
  simp [Record.value?]

@[simp] theorem value_later {name other : String} (differ : other ≠ name) (j : Json) (rest : List (String × Json)) :
    Record.value? ⟨false, (other, j) :: rest⟩ name = Record.value? ⟨false, rest⟩ name := by
  simp [Record.value?, differ]

theorem table_keeps {κ : Type} [LT κ] [DecidableLT κ] [DecidableEq κ] [KeyOrder κ] {key : Lexeme → Option κ}
    {t : Table κ α} (name : κ → String) (keys : ∀ e ∈ t.entries, key (escape (name e.1)) = some e.1)
    (each : ∀ e ∈ t.entries, Keeps item levels (encode e.2) e.2) :
    Keeps (toTable? key item) (levels + 1) (record (t.entries.map fun e => (name e.1, encode e.2))) t := by
  constructor
  · apply record_sound
    intro f member
    obtain ⟨e, inside, rfl⟩ := List.mem_map.mp member
    exact (each e inside).sound
  · have entries : ((t.entries.map fun e => (name e.1, encode e.2)).map fun f => (escape f.1, f.2)).mapM
        (fun f : Lexeme × Json => do
          let k ← key f.1
          let a ← item f.2
          some (k, a)) = some t.entries := by
      rw [List.map_map]
      apply mapM_read
      intro e member
      simp only [Function.comp_apply, keys e member, (each e member).read, Option.bind_eq_bind, Option.bind_some]
    unfold toTable? record
    simp only
    rw [entries]
    exact congrArg some (Table.of_list_entries t)

theorem names_keeps {t : Table String α} (each : ∀ e ∈ t.entries, Keeps item levels (encode e.2) e.2) :
    Keeps (toTable? textOf? item) (levels + 1) (namesJson encode t) t :=
  table_keeps (fun name => name) (fun e _ => escape_means e.1) each

theorem escape_digits {digits : List Char} (all : Digits digits) : digits.flatMap escapeChar = digits := by
  induction digits with
  | nil => rfl
  | cons c rest ih =>
      have digit : c.isDigit = true := all c List.mem_cons_self
      have plain : escapeChar c = [c] := by
        have large : '0'.toNat ≤ c.toNat := by
          simp only [Char.isDigit, Bool.and_eq_true, decide_eq_true_eq] at digit
          exact digit.1
        unfold escapeChar
        split <;> first | exact absurd digit (by decide) | skip
        rw [if_neg (by simp at large; omega)]
      rw [List.flatMap_cons, plain, ih fun d member => all d (List.mem_cons_of_mem _ member)]
      rfl

theorem hours_read {n : Nat} (fits : n < wordLimit 32) : hoursKey? (escape (toString n)) = some n := by
  have lexeme : escape (toString n) = Nat.toDigits 10 n := by
    show (String.ofList (Nat.toDigits 10 n)).toList.flatMap escapeChar = _
    rw [String.toList_ofList, escape_digits (written_digits n)]
  have digits : (Nat.toDigits 10 n).all Char.isDigit = true := List.all_eq_true.mpr (written_digits n)
  have begun : (Nat.toDigits 10 n).isEmpty = false := by simp
  have plain : (Nat.toDigits 10 n).head? ≠ some '0' ∨ (Nat.toDigits 10 n).length = 1 := by
    rcases Nat.eq_zero_or_pos n with rfl | positive
    · exact .inr rfl
    · exact .inl (written_head positive)
  rw [lexeme, hoursKey?, nat_of_written]
  exact if_pos ⟨digits, by simp, plain, fits⟩

theorem hours_keeps {t : Table Nat α} (fits : ∀ e ∈ t.entries, e.1 < wordLimit 32)
    (each : ∀ e ∈ t.entries, Keeps item levels (encode e.2) e.2) :
    Keeps (toTable? hoursKey? item) (levels + 1) (hoursJson encode t) t :=
  table_keeps toString (fun e member => hours_read (fits e member)) each

-- A record of several kinds is told apart by a field that none of the others bears the name of.
theorem tagged_read {tag kind : String} {outer : Nat} {fields : List (String × Json)}
    (sound : Sound levels (record ((tag, str kind) :: fields))) (shallow : outer + levels ≤ greatestDepth)
    (other : ∀ f ∈ fields, f.1 ≠ tag) :
    toTagged? tag outer (record ((tag, str kind) :: fields)) = some (kind, record fields) := by
  have inside : ¬ greatestDepth < outer + depth (record ((tag, str kind) :: fields)) := by
    have := sound.shallow
    omega
  have tags : (fields.map fun f => (escape f.1, f.2)).filter (fun f => textOf? f.1 == some tag) = [] := by
    rw [List.filter_eq_nil_iff]
    intro f member
    obtain ⟨g, there, rfl⟩ := List.mem_map.mp member
    simp [escape_means, other g there]
  have others : (fields.map fun f => (escape f.1, f.2)).filter (fun f => !(textOf? f.1 == some tag)) =
      fields.map fun f => (escape f.1, f.2) := by
    rw [List.filter_eq_self]
    intro f member
    obtain ⟨g, there, rfl⟩ := List.mem_map.mp member
    simp [escape_means, other g there]
  have own : (textOf? (escape tag) == some tag) = true := by simp [escape_means]
  have named : toText? (str kind) = some kind := escape_means kind
  unfold toTagged?
  rw [if_neg (by simpa [sound.held] using inside)]
  simp only [record, List.map_cons, List.filter_cons, own, tags, others, Bool.not_true, if_true, Bool.false_eq_true,
    if_false, named, Option.map_some]

end

/-! ## Whole documents -/

theorem chars_documented {text : List Char} (clean : strayMark ∉ text) : text.map unmarked = text := by
  refine (List.map_congr_left fun c member => ?_).trans (List.map_id text)
  refine if_neg ?_
  rintro rfl
  exact clean member

mutual
-- The text of a document is long enough for it to be read.
theorem rounds_chars (j : Json) : rounds j ≤ 2 * (chars j).length + 2 := by
  match j with
  | .null | .bool _ | .number _ | .string _ => simp [rounds]
  | .array items =>
      have inside := rounds_items items
      simp only [rounds, chars, List.length_append, List.length_cons, List.length_nil]
      omega
  | .object fields =>
      have inside := rounds_fields fields
      simp only [rounds, chars, List.length_append, List.length_cons, List.length_nil]
      omega
theorem rounds_items (items : List Json) : itemsRounds items ≤ 2 * (itemChars items).length + 3 := by
  match items with
  | [] => simp [itemsRounds]
  | [item] =>
      have first := rounds_chars item
      simp only [itemsRounds, itemChars]
      omega
  | item :: next :: rest =>
      have first := rounds_chars item
      have others := rounds_items (next :: rest)
      rw [itemsRounds, itemChars, List.length_append, List.length_cons]
      · omega
      · simp
theorem rounds_fields (fields : List (Lexeme × Json)) : fieldsRounds fields ≤ 2 * (fieldChars fields).length + 3 := by
  match fields with
  | [] => simp [fieldsRounds]
  | [(name, value)] =>
      have first := rounds_chars value
      simp only [fieldsRounds, fieldChars, List.length_append, List.length_cons]
      omega
  | (name, value) :: next :: rest =>
      have first := rounds_chars value
      have others := rounds_fields (next :: rest)
      rw [fieldsRounds, fieldChars]
      · simp only [List.length_append, List.length_cons]
        omega
      · simp
end

theorem of_chars {levels : Nat} {j : Json} (sound : Sound levels j) : ofChars? (chars j) = some j := by
  have read := read_chars j (2 * (chars j).length + 2) [] sound.legible (rounds_chars j) ends_nil
  rw [List.append_nil] at read
  simp only [ofChars?, read, Option.bind_eq_bind, Option.bind_some, List.all_nil, if_true]

theorem bytes_loop (bytes : ByteArray) (i : Nat) (front : List UInt8) :
    ByteArray.toList.loop bytes i front = front.reverse ++ bytes.data.toList.drop i := by
  induction i, front using ByteArray.toList.loop.induct bytes with
  | case1 i front more ih =>
      have inside : i < bytes.data.toList.length := by simpa using more
      have here : bytes.get! i = bytes.data.toList[i] := by
        simp only [ByteArray.get!, Array.getElem_toList]
        exact getElem!_pos bytes.data i (by simpa using more)
      rw [ByteArray.toList.loop, if_pos more, ih, List.drop_eq_getElem_cons inside, here]
      simp
  | case2 i front beyond =>
      have past : bytes.data.toList.length ≤ i := by simpa using beyond
      rw [ByteArray.toList.loop, if_neg beyond, List.drop_eq_nil_of_le past, List.append_nil]

theorem of_to_bytes (text : String) : Text.ofBytes? (toBytes text) = some text := by
  have bytes : text.toUTF8.toList = text.toUTF8.data.toList := by
    rw [ByteArray.toList, bytes_loop]
    rfl
  unfold Text.ofBytes? toBytes String.fromUTF8?
  rw [bytes]
  exact dif_pos text.isValidUTF8

-- A value is read back from the text of its document, and from the bytes of that text.
structure ReadBack {α : Type} (item : Decoder α) (j : Json) (a : α) : Prop where
  text : (ofText? j.text).bind item = some a
  bytes : (ofBytes? (toBytes j.text)).bind item = some a

theorem keeps_read_back {α : Type} {item : Decoder α} {levels : Nat} {j : Json} {a : α}
    (keeps : Keeps item levels j a) : ReadBack item j a := by
  have text : ofText? j.text = some j := by
    rw [ofText?, documentChars, Json.text, String.toList_ofList, chars_documented keeps.sound.unmarked,
      of_chars keeps.sound]
  have bytes : ofBytes? (toBytes j.text) = some j := by
    rw [ofBytes?, charsOfBytes, of_to_bytes]
    exact text
  exact ⟨by rw [text, Option.bind_some, keeps.read], by rw [bytes, Option.bind_some, keeps.read]⟩

end GridLoad.Json
