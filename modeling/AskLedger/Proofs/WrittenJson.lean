import AskLedger.Json.Writer
import AskLedger.Proofs.WrittenNumerals
import Mathlib.Data.List.Forall2

/-!
# Written JSON

What is written of a value is read back as that value, in either of the two notations, provided that
nothing in it is broken and its numerals are sound. Texts may hold any character whatsoever.

The reader is given more steps than the text has characters. Each step of it takes a character at
least, so a list or an object of a shorter text leaves enough steps for everything in it.

* `Json.readText?_written`: a text is read back.
* `Json.writes`: a value is read from its text, whatever follows it.
* `Json.read?_compact`, `Json.read?_pretty`: a value is read back.
-/

namespace AskLedger.Json

/-! ## Texts -/

/-- The characters whose escape is a letter or a mark. -/
def lettered : List Char := ['"', '\\', '\x08', '\x0c', '\n', '\r', '\t']

/-- The piece that is read of a written character. -/
def pieceOf (c : Char) : Piece :=
  if c ∉ lettered ∧ c.toNat < 32 then .unit c.toNat else .plain c

section
variable (found : List Piece) (rest : List Char)

/-- An escape with a letter is read back. -/
theorem piecesFrom_lettered : ∀ c ∈ lettered,
    piecesFrom found (writtenChar c ++ rest) = piecesFrom (.plain c :: found) rest := by
  simp [lettered, writtenChar, piecesFrom, escaped?]

theorem hexNumber?_hexDigit : ∀ n < 32,
    Text.hexNumber? ['0', '0', Text.hexDigit (n / 16), Text.hexDigit (n % 16)] = some n := by
  decide

/-- A written character is read as one piece. -/
theorem piecesFrom_writtenChar (c : Char) :
    piecesFrom found (writtenChar c ++ rest) = piecesFrom (pieceOf c :: found) rest := by
  by_cases hletter : c ∈ lettered
  · rw [pieceOf, if_neg fun h => h.1 hletter, piecesFrom_lettered _ _ c hletter]
  · have hother := hletter
    simp only [lettered, List.mem_cons, List.not_mem_nil, or_false, not_or] at hother
    by_cases hcontrol : c.toNat < 32
    · -- four digits give the character, and the two in front are zeros
      have hnumber := hexNumber?_hexDigit c.toNat hcontrol
      simp [pieceOf, hletter, hcontrol, writtenChar, hother, piecesFrom, hnumber]
    · simp [pieceOf, hcontrol, writtenChar, hother, piecesFrom]

/-- A written text is read back character by character. -/
theorem piecesFrom_written (s : List Char) :
    piecesFrom found (s.flatMap writtenChar ++ '"' :: rest) =
      some ((s.map pieceOf).reverse ++ found, rest) := by
  induction s generalizing found with
  | nil => rfl
  | cons c s ih =>
    rw [List.flatMap_cons, List.append_assoc, piecesFrom_writtenChar, ih]
    simp

end

/-- A unit below the halves of pairs stands for itself, whatever follows it. -/
theorem joinPieces?_unit {n : Nat} (h : n < 0xD800) (pieces : List Piece) :
    joinPieces? (.unit n :: pieces) = (joinPieces? pieces).map (Char.ofNat n :: ·) := by
  have hfirst : ¬0xD800 ≤ n := by omega
  have hsecond : ¬0xDC00 ≤ n := by omega
  match pieces with
  | [] => simp [joinPieces?, hfirst]
  | .plain c :: rest => simp [joinPieces?, hfirst]
  | .unit low :: rest => rw [joinPieces?, if_neg (by simp [hfirst]), if_neg (by simp [hsecond])]

/-- The characters of a text make the text. -/
theorem joinPieces?_map_pieceOf (s : List Char) : joinPieces? (s.map pieceOf) = some s := by
  induction s with
  | nil => rfl
  | cons c s ih =>
    rw [List.map_cons, pieceOf]
    split
    · next h => rw [joinPieces?_unit (by omega), ih, Char.ofNat_toNat, Option.map_some]
    · rw [joinPieces?, ih, Option.map_some]

/-- A text is read back. -/
theorem readText?_written (s : String) (rest : List Char) :
    readText? (s.toList.flatMap writtenChar ++ '"' :: rest) = some (some s, rest) := by
  rw [readText?, piecesFrom_written]
  simp [joinPieces?_map_pieceOf]

/-! ## Blanks -/

section
variable {gap : List Char} (hgap : ∀ c ∈ gap, isSpace c = true)
include hgap

/-- Space in front is passed over. -/
theorem skipSpace_append (s : List Char) : skipSpace (gap ++ s) = skipSpace s :=
  List.dropWhile_append_of_pos hgap

/-- Blanks in front of a mark are skipped up to it. -/
theorem skipSpace_mark {c : Char} (hc : isSpace c = false) (s : List Char) :
    skipSpace (gap ++ c :: s) = c :: s := by
  rw [skipSpace_append hgap, skipSpace, List.dropWhile_cons_of_neg (by simp [hc])]

/-- Space in front of a value is passed over. -/
theorem readValue?_append (fuel : Nat) (s : List Char) :
    readValue? fuel (gap ++ s) = readValue? fuel s := by
  cases fuel with
  | zero => rfl
  | succ fuel => rw [readValue?, readValue?, skipSpace_append hgap]

theorem readItems?_append (fuel : Nat) (found : List Json) (s : List Char) :
    readItems? fuel found (gap ++ s) = readItems? fuel found s := by
  cases fuel with
  | zero => rfl
  | succ fuel => rw [readItems?, readItems?, readValue?_append hgap]

theorem readMembers?_append (fuel : Nat) (found : List (Option String × Json)) (s : List Char) :
    readMembers? fuel found (gap ++ s) = readMembers? fuel found s := by
  cases fuel with
  | zero => rfl
  | succ fuel => rw [readMembers?, readMembers?, skipSpace_append hgap]

/-- What starts with blanks and a mark ends a number. -/
theorem endsNumber_mark {c : Char} (hc : c.isDigit = false ∧ c ∉ ['.', 'e', 'E'])
    (s : List Char) : EndsNumber (gap ++ c :: s) := by
  cases gap with
  | nil => simpa [EndsNumber] using hc
  | cons d gap =>
    have hd : isSpace d = true := hgap d List.mem_cons_self
    have hblank : d ∈ [' ', '\t', '\n', '\r'] := by simpa [isSpace, or_assoc] using hd
    have hall : ∀ d ∈ [' ', '\t', '\n', '\r'], d.isDigit = false ∧ d ∉ ['.', 'e', 'E'] :=
      Text.forall_of_all (by decide)
    intro e he
    obtain rfl : e = d := by simpa using he.symm
    exact hall e hblank

end

/-! ## Steps of the reader -/

section
variable {fuel : Nat} {s rest gap : List Char} {v : Json} (hgap : ∀ c ∈ gap, isSpace c = true)

include hgap in
/-- The last item, with a bracket behind it. -/
theorem readItems?_last {found : List Json}
    (hv : readValue? fuel s = some (v, gap ++ ']' :: rest)) :
    readItems? (fuel + 1) found s = some (found.reverse ++ [v], rest) := by
  have hclose : skipSpace (gap ++ ']' :: rest) = ']' :: rest := skipSpace_mark hgap rfl rest
  rw [readItems?, hv]
  simp [hclose]

/-- An item with a comma behind it. -/
theorem readItems?_more {found : List Json} (hv : readValue? fuel s = some (v, ',' :: rest)) :
    readItems? (fuel + 1) found s = readItems? fuel (v :: found) rest := by
  have hcomma : skipSpace (',' :: rest) = ',' :: rest := rfl
  rw [readItems?, hv]
  simp [hcomma]

section
variable {found : List (Option String × Json)} (name : String)

theorem toList_writtenText_append (s : List Char) : (writtenText name).toList ++ ':' :: s =
    '"' :: (name.toList.flatMap writtenChar ++ '"' :: ':' :: s) := by
  simp [writtenText]

theorem skipSpace_quote (s : List Char) : skipSpace ('"' :: s) = '"' :: s := rfl

theorem skipSpace_colon (s : List Char) : skipSpace (':' :: s) = ':' :: s := rfl

include hgap in
/-- The last member, with a brace behind it. -/
theorem readMembers?_last (hv : readValue? fuel s = some (v, gap ++ '\x7d' :: rest)) :
    readMembers? (fuel + 1) found ((writtenText name).toList ++ ':' :: s) =
      some (found.reverse ++ [(some name, v)], rest) := by
  have hclose : skipSpace (gap ++ '\x7d' :: rest) = '\x7d' :: rest := skipSpace_mark hgap rfl rest
  rw [toList_writtenText_append, readMembers?, skipSpace_quote]
  simp [readText?_written, skipSpace_colon, hv, hclose]

theorem readMembers?_more (hv : readValue? fuel s = some (v, ',' :: rest)) :
    readMembers? (fuel + 1) found ((writtenText name).toList ++ ':' :: s) =
      readMembers? fuel ((some name, v) :: found) rest := by
  have hcomma : skipSpace (',' :: rest) = ',' :: rest := rfl
  rw [toList_writtenText_append, readMembers?, skipSpace_quote]
  simp [readText?_written, skipSpace_colon, hv, hcomma]

end

/-- A list whose items can be read is no empty list. -/
theorem readValue?_array {items : List Json} (h : readItems? fuel [] s = some (items, rest)) :
    readValue? (fuel + 1) ('[' :: s) = some (.array items, rest) := by
  have hopen : skipSpace ('[' :: s) = '[' :: s := rfl
  have hitem : ∀ t, skipSpace s ≠ ']' :: t := by
    intro t ht
    match fuel with
    | 0 => simp [readItems?] at h
    | 1 => simp [readItems?, readValue?] at h
    | fuel + 2 => simp [readItems?, readValue?, ht, readNumber?] at h
  rw [readValue?, hopen]
  simp only
  rw [h, Option.map_some]

/-- An object is read member by member. -/
theorem readValue?_object {members : List (Option String × Json)}
    (h : readMembers? fuel [] s = some (members, rest)) :
    readValue? (fuel + 1) ('\x7b' :: s) = some (objectOf members, rest) := by
  have hopen : skipSpace ('\x7b' :: s) = '\x7b' :: s := rfl
  have hmember : ∀ t, skipSpace s ≠ '\x7d' :: t := by
    intro t ht
    match fuel with
    | 0 => simp [readMembers?] at h
    | fuel + 1 => simp [readMembers?, ht] at h
  rw [readValue?, hopen]
  simp only
  rw [h, Option.map_some]

end

/-! ## Values -/

/-- A text that is read as a value wherever no number is continued behind it. -/
def Writes (text : String) (v : Json) : Prop :=
  ∀ fuel rest, text.toList.length < fuel → EndsNumber rest →
    readValue? fuel (text.toList ++ rest) = some (v, rest)

/-- A text that is read as a member of an object. -/
def WritesMember (text : String) (m : String × Json) : Prop :=
  ∃ gap value, (∀ c ∈ gap, isSpace c = true) ∧ Writes value m.2 ∧
    text.toList = (writtenText m.1).toList ++ ':' :: (gap ++ value.toList)

/-- A written text is read as the text. -/
theorem writes_text (s : String) : Writes (writtenText s) (.text s) := by
  intro fuel rest hfuel _
  obtain ⟨fuel, rfl⟩ := Nat.exists_eq_add_one.2 (Nat.zero_lt_of_lt hfuel)
  have htext : (writtenText s).toList ++ rest =
      '"' :: (s.toList.flatMap writtenChar ++ '"' :: rest) := by
    simp [writtenText]
  rw [htext, readValue?, skipSpace_quote]
  simp only [readText?_written, Option.map_some]

/-- What starts with a digit or a minus is read as a number. -/
theorem readValue?_number {c : Char} (hc : c.isDigit = true ∨ c = '-') (fuel : Nat)
    (s : List Char) :
    readValue? (fuel + 1) (c :: s) =
      (readNumber? (c :: s)).map fun (n, rest) => (.number n, rest) := by
  have hmarks : ∀ d ∈ '-' :: Decimal.digits, isSpace d = false ∧
      d ∉ ['n', 't', 'f', '"', '[', '\x7b'] := Text.forall_of_all (by decide)
  obtain ⟨hspace, hother⟩ := hmarks c <| hc.elim
    (fun hdigit => List.mem_cons_of_mem _ (Decimal.mem_digits_of_isDigit hdigit))
    fun hminus => hminus ▸ List.mem_cons_self
  simp only [List.mem_cons, List.not_mem_nil, or_false, not_or] at hother
  have hstart : skipSpace (c :: s) = c :: s :=
    List.dropWhile_cons_of_neg (by simp [hspace])
  rw [readValue?, hstart]
  simp [hother]

/-- A written number is read as the number. -/
theorem writes_number {n : Numeral} (h : n.Sound) : Writes n.written (.number n) := by
  intro fuel rest hfuel hrest
  obtain ⟨fuel, rfl⟩ := Nat.exists_eq_add_one.2 (Nat.zero_lt_of_lt hfuel)
  have hread := readNumber?_written h hrest
  obtain ⟨c, s, hc, hs⟩ : ∃ c s, (c.isDigit = true ∨ c = '-') ∧
      n.written.toList ++ rest = c :: s := by
    obtain ⟨d, ds, hd⟩ := List.exists_cons_of_ne_nil h.whole_ne_nil
    rw [Numeral.toList_written, hd]
    cases n.negative with
    | true => exact ⟨'-', _, .inr rfl, rfl⟩
    | false =>
      exact ⟨d, _, .inl (h.whole_isDigit d (by rw [hd]; exact List.mem_cons_self)), rfl⟩
  rw [hs] at hread ⊢
  rw [readValue?_number hc, hread, Option.map_some]

/-! ## Lists and objects -/

/-- The blanks between the items of a list or the members of an object. -/
structure Spacing where
  /-- What stands in front of each item. -/
  gap : String
  /-- What stands behind the last item. -/
  close : String
  /-- There are only blanks in front of an item. -/
  isSpace_gap : ∀ c ∈ gap.toList, isSpace c = true
  /-- There are only blanks behind the last item. -/
  isSpace_close : ∀ c ∈ close.toList, isSpace c = true

namespace Spacing

/-- No blanks at all. -/
def none : Spacing := ⟨"", "", by simp, by simp⟩

theorem isSpace_of_mem_newLine {level : Nat} :
    ∀ c ∈ (newLine level).toList, isSpace c = true := by
  intro c hc
  simp only [newLine, String.toList_append, String.toList_ofList, List.mem_append] at hc
  rcases hc with hc | hc
  · obtain rfl : c = '\n' := by simpa using hc
    rfl
  · rw [List.eq_of_mem_replicate hc]
    rfl

/-- A line for each item. -/
def lines (level : Nat) : Spacing :=
  ⟨newLine (level + 1), newLine level, isSpace_of_mem_newLine, isSpace_of_mem_newLine⟩

variable (space : Spacing)

/-- Items with their commas. -/
def joined (texts : List String) : List Char :=
  (Text.joinWith ("," ++ space.gap) texts).toList

theorem joined_singleton (text : String) : space.joined [text] = text.toList := rfl

/-- Texts are joined with commas and space. -/
theorem joined_cons (first second : String) (texts : List String) :
    space.joined (first :: second :: texts) =
      first.toList ++ ',' :: (space.gap.toList ++ space.joined (second :: texts)) := by
  simp [joined, Text.joinWith]

/-- Items between brackets; nothing between the brackets if there are none. -/
def around (opening closing : String) (texts : List String) : String :=
  if texts.isEmpty then opening ++ closing
  else opening ++ space.gap ++ Text.joinWith ("," ++ space.gap) texts ++ space.close ++ closing

theorem around_none (opening closing : String) (texts : List String) :
    none.around opening closing texts = opening ++ Text.joinWith "," texts ++ closing := by
  cases texts <;> simp [around, none, Text.joinWith]

/-- Texts in brackets, with space inside. -/
theorem toList_around {texts : List String} (hne : texts ≠ []) (opening closing : String) :
    (space.around opening closing texts).toList = opening.toList ++
      (space.gap.toList ++ (space.joined texts ++ (space.close.toList ++ closing.toList))) := by
  simp [around, hne, joined]

end Spacing

theorem endsNumber_comma (s : List Char) : EndsNumber (',' :: s) := by
  simp [EndsNumber]

section
variable (space : Spacing) (rest : List Char)

/-- The remaining items are read; the text of an item and the comma behind it are worth a step. -/
theorem readItems?_joined {texts : List String} {items : List Json}
    (h : List.Forall₂ Writes texts items) (hne : items ≠ []) (fuel : Nat) (found : List Json)
    (hfuel : (space.joined texts).length + 1 < fuel) :
    readItems? fuel found (space.joined texts ++ (space.close.toList ++ ']' :: rest)) =
      some (found.reverse ++ items, rest) := by
  induction h generalizing fuel found with
  | nil => exact absurd rfl hne
  | @cons text v texts items hv htail ih =>
    obtain ⟨fuel, rfl⟩ := Nat.exists_eq_add_one.2 (Nat.zero_lt_of_lt hfuel)
    -- the closing bracket follows the last item, and a comma any other
    cases htail with
    | nil =>
      rw [Spacing.joined_singleton] at hfuel ⊢
      exact readItems?_last space.isSpace_close
        (hv fuel _ (by omega) (endsNumber_mark space.isSpace_close (by decide) rest))
    | @cons next w texts items hw htail =>
      rw [Spacing.joined_cons] at hfuel ⊢
      simp only [List.length_append, List.length_cons] at hfuel
      have hitem := hv fuel _ (by omega) (endsNumber_comma (space.gap.toList ++
        (space.joined (next :: texts) ++ (space.close.toList ++ ']' :: rest))))
      have hothers := ih (List.cons_ne_nil _ _) fuel (v :: found) (by omega)
      rw [← readItems?_append space.isSpace_gap] at hothers
      simp only [List.append_assoc, List.cons_append]
      rw [readItems?_more hitem, hothers]
      simp

/-- The remaining members are read. -/
theorem readMembers?_joined {texts : List String} {members : List (String × Json)}
    (h : List.Forall₂ WritesMember texts members) (hne : members ≠ []) (fuel : Nat)
    (found : List (Option String × Json)) (hfuel : (space.joined texts).length + 1 < fuel) :
    readMembers? fuel found (space.joined texts ++ (space.close.toList ++ '\x7d' :: rest)) =
      some (found.reverse ++ members.map (fun m => (some m.1, m.2)), rest) := by
  induction h generalizing fuel found with
  | nil => exact absurd rfl hne
  | @cons text m texts members hm htail ih =>
    obtain ⟨fuel, rfl⟩ := Nat.exists_eq_add_one.2 (Nat.zero_lt_of_lt hfuel)
    obtain ⟨gap, value, hgap, hv, htext⟩ := hm
    -- the closing brace follows the last member, and a comma any other
    cases htail with
    | nil =>
      rw [Spacing.joined_singleton, htext] at hfuel ⊢
      simp only [List.length_append, List.length_cons] at hfuel
      have hend : EndsNumber (space.close.toList ++ '\x7d' :: rest) :=
        endsNumber_mark space.isSpace_close (by decide) rest
      have hvalue := hv fuel _ (by omega) hend
      rw [← readValue?_append hgap] at hvalue
      simp only [List.append_assoc, List.cons_append]
      exact readMembers?_last space.isSpace_close m.1 hvalue
    | @cons next w texts members hw htail =>
      rw [Spacing.joined_cons, htext] at hfuel ⊢
      simp only [List.length_append, List.length_cons] at hfuel
      have hvalue := hv fuel _ (by omega) (endsNumber_comma (space.gap.toList ++
        (space.joined (next :: texts) ++ (space.close.toList ++ '\x7d' :: rest))))
      have hothers := ih (List.cons_ne_nil _ _) fuel ((some m.1, m.2) :: found) (by omega)
      rw [← readValue?_append hgap] at hvalue
      rw [← readMembers?_append space.isSpace_gap] at hothers
      simp only [List.append_assoc, List.cons_append]
      rw [readMembers?_more m.1 hvalue, hothers]
      simp

end

/-- An array is read item by item. -/
theorem writes_array (space : Spacing) {texts : List String} {items : List Json}
    (h : List.Forall₂ Writes texts items) :
    Writes (space.around "[" "]" texts) (.array items) := by
  intro fuel rest hfuel _
  obtain ⟨fuel, rfl⟩ := Nat.exists_eq_add_one.2 (Nat.zero_lt_of_lt hfuel)
  -- with nothing between them the brackets stand together, without any spacing
  by_cases hne : texts = []
  · subst hne
    cases h
    have htext : space.around "[" "]" [] = "[]" := rfl
    rw [htext]
    rfl
  · have hitems : items ≠ [] := by
      rintro rfl
      cases h
      exact hne rfl
    rw [space.toList_around hne] at hfuel ⊢
    have hlength : (space.joined texts).length + 1 < fuel := by
      simp at hfuel
      omega
    have hread := readItems?_joined space rest h hitems fuel [] hlength
    rw [← readItems?_append space.isSpace_gap] at hread
    simpa using readValue?_array hread

theorem objectOf_map (members : List (String × Json)) :
    objectOf (members.map fun m => (some m.1, m.2)) = .object members := by
  have hnames : (members.map fun m => (some m.1, m.2)).mapM
      (fun m => m.1.map fun n => ((n, m.2) : String × Json)) = some members := by
    induction members with
    | nil => rfl
    | cons m members ih =>
      rw [List.map_cons, List.mapM_cons, ih]
      rfl
  rw [objectOf]
  split
  · next ms hms => rw [Option.some.inj (hms.symm.trans hnames)]
  · next hnone => cases hnone.symm.trans hnames

/-- An object is read member by member, as it is written. -/
theorem writes_object (space : Spacing) {texts : List String} {members : List (String × Json)}
    (h : List.Forall₂ WritesMember texts members) :
    Writes (space.around "\x7b" "\x7d" texts) (.object members) := by
  intro fuel rest hfuel _
  obtain ⟨fuel, rfl⟩ := Nat.exists_eq_add_one.2 (Nat.zero_lt_of_lt hfuel)
  -- with nothing between them the braces stand together, without any spacing
  by_cases hne : texts = []
  · subst hne
    cases h
    have htext : space.around "\x7b" "\x7d" [] = "\x7b\x7d" := rfl
    rw [htext]
    rfl
  · have hmembers : members ≠ [] := by
      rintro rfl
      cases h
      exact hne rfl
    rw [space.toList_around hne] at hfuel ⊢
    have hlength : (space.joined texts).length + 1 < fuel := by
      simp at hfuel
      omega
    have hread := readMembers?_joined space rest h hmembers fuel [] hlength
    rw [← readMembers?_append space.isSpace_gap] at hread
    simpa [objectOf_map] using readValue?_object hread

/-! ## Written values -/

mutual

/-- A value that has a text: nothing in it is broken, and its numerals are sound. -/
def Sound : Json → Prop
  | null => True
  | bool _ => True
  | number n => n.Sound
  | text _ => True
  | array items => SoundItems items
  | object members => SoundMembers members
  | broken => False

/-- Items that have a text. -/
def SoundItems : List Json → Prop
  | [] => True
  | v :: vs => Sound v ∧ SoundItems vs

/-- Members that have a text. -/
def SoundMembers : List (String × Json) → Prop
  | [] => True
  | (_, v) :: ms => Sound v ∧ SoundMembers ms

end

/-- Items are sound if each is. -/
theorem soundItems_iff {items : List Json} : SoundItems items ↔ ∀ v ∈ items, v.Sound := by
  induction items with
  | nil => simp [SoundItems]
  | cons v items ih => simp [SoundItems, ih]

theorem soundMembers_iff {members : List (String × Json)} :
    SoundMembers members ↔ ∀ m ∈ members, m.2.Sound := by
  induction members with
  | nil => simp [SoundMembers]
  | cons m members ih => simp [SoundMembers, ih]

theorem writes_null : Writes "null" null := by
  intro fuel rest hfuel _
  obtain ⟨fuel, rfl⟩ := Nat.exists_eq_add_one.2 (Nat.zero_lt_of_lt hfuel)
  rfl

theorem writes_bool (b : Bool) : Writes (if b then "true" else "false") (.bool b) := by
  intro fuel rest hfuel _
  obtain ⟨fuel, rfl⟩ := Nat.exists_eq_add_one.2 (Nat.zero_lt_of_lt hfuel)
  cases b <;> rfl

mutual

/-- A value is read from its text in either notation, whatever follows it. -/
theorem writes : (v : Json) → v.Sound →
    Writes v.compact v ∧ ∀ level, Writes (prettyAt level v) v
  | null, _ => ⟨writes_null, fun _ => writes_null⟩
  | bool b, _ => ⟨writes_bool b, fun _ => writes_bool b⟩
  | number _, h => ⟨writes_number h, fun _ => writes_number h⟩
  | text s, _ => ⟨writes_text s, fun _ => writes_text s⟩
  | array items, h =>
    have hitems := writes_items items h
    ⟨by rw [compact, ← Spacing.around_none]; exact writes_array .none hitems.1,
      fun level => writes_array (.lines level) (hitems.2 (level + 1))⟩
  | object members, h =>
    have hmembers := writes_members members h
    ⟨by rw [compact, ← Spacing.around_none]; exact writes_object .none hmembers.1,
      fun level => writes_object (.lines level) (hmembers.2 (level + 1))⟩
  | broken, h => h.elim

/-- Sound items are written in both layouts. -/
theorem writes_items : (items : List Json) → SoundItems items →
    List.Forall₂ Writes (compactItems items) items ∧
      ∀ level, List.Forall₂ Writes (prettyItems level items) items
  | [], _ => ⟨.nil, fun _ => .nil⟩
  | v :: vs, h =>
    have hv := writes v h.1
    have hvs := writes_items vs h.2
    ⟨.cons hv.1 hvs.1, fun level => .cons (hv.2 level) (hvs.2 level)⟩

theorem writes_members : (members : List (String × Json)) → SoundMembers members →
    List.Forall₂ WritesMember (compactMembers members) members ∧
      ∀ level, List.Forall₂ WritesMember (prettyMembers level members) members
  | [], _ => ⟨.nil, fun _ => .nil⟩
  | (name, v) :: ms, h =>
    have hv := writes v h.1
    have hms := writes_members ms h.2
    ⟨.cons ⟨[], compact v, by simp, hv.1, by simp⟩ hms.1,
      fun level => .cons ⟨[' '], prettyAt level v, by simp [isSpace], hv.2 level, by simp⟩
        (hms.2 level)⟩

end

/-- A text that is read as a value to its end is that value. -/
theorem read?_of_writes {text : String} {v : Json} (h : Writes text v) :
    read? text.toList = some v := by
  have hread := h (text.toList.length + 1) [] (Nat.lt_succ_self _) endsNumber_nil
  rw [List.append_nil] at hread
  rw [read?, hread]
  rfl

/-- What is written on one line is read back. -/
theorem read?_compact {v : Json} (h : v.Sound) : read? v.compact.toList = some v :=
  read?_of_writes (writes v h).1

/-- What is written with indents is read back. -/
theorem read?_pretty {v : Json} (h : v.Sound) : read? v.pretty.toList = some v :=
  read?_of_writes ((writes v h).2 0)

end AskLedger.Json
