import AskLedger.Proofs.LetterCase
import AskLedger.Proofs.OuterBlanks

/-!
# Texts that differ in case and outer blanks

Two texts are alike if they differ at most in the case of ASCII letters and in outer blanks. A
pattern that neither starts nor ends with a blank and does not tell the cases of a letter apart
finds the same in both, as often and in the same order, up to the case of the letters.

* `Text.Alike.congr`: what depends on neither is the same in alike texts.
* `Pattern.find?_alike`, `Pattern.all_alike`, `Pattern.replaceAll_alike`: searches in alike texts.
-/

namespace AskLedger

/-! ## Alike texts -/

namespace Text

/-- Texts that differ at most in the case of ASCII letters and in outer blanks. -/
def Alike (s t : List Char) : Prop := asciiLower (trim s) = asciiLower (trim t)

instance (s t : List Char) : Decidable (Alike s t) := inferInstanceAs (Decidable (_ = _))

variable {s t : List Char}

/-- What neither depends on outer blanks nor on case is the same in alike texts. -/
theorem Alike.congr {α : Type} {f : List Char → α}
    (hblanks : ∀ u v s : List Char, (∀ c ∈ u, isBlank c = true) → (∀ c ∈ v, isBlank c = true) →
      f (u ++ s ++ v) = f s)
    (hlower : ∀ s, f (asciiLower s) = f s) (h : Alike s t) : f s = f t := by
  -- every text has the value of its normal form, and alike texts have the same normal form
  have htrim : ∀ s, f s = f (asciiLower (trim s)) := by
    intro s
    obtain ⟨u, v, hu, hv, hs⟩ := exists_trim s
    rw [hlower, ← hblanks u v (trim s) hu hv, ← hs]
  rw [htrim s, htrim t, h]

/-- Blanks around a text do not matter. -/
theorem alike_blanks {u v : List Char} (hu : ∀ c ∈ u, isBlank c = true)
    (hv : ∀ c ∈ v, isBlank c = true) (s : List Char) : Alike (u ++ s ++ v) s :=
  congrArg asciiLower (trim_blanks hu hv s)

/-- The case of ASCII letters does not matter. -/
theorem alike_asciiLower (s : List Char) : Alike (asciiLower s) s := by
  rw [Alike, trim_asciiLower, asciiLower_asciiLower]

/-- Texts that differ in case only are alike. -/
theorem alike_of_asciiLower (h : asciiLower s = asciiLower t) : Alike s t := by
  rw [Alike, ← trim_asciiLower, h, trim_asciiLower]

/-- Without outer blanks, texts that are alike are alike. -/
theorem Alike.trim (h : Alike s t) : Alike (trim s) (trim t) := alike_of_asciiLower h

end Text

open Text (Alike asciiLower)

/-! ## What matches say -/

/-- What a match reads and remembers, wherever it is and in whatever case. -/
def Match.said (m : Match) : List Char × List (Nat × List Char) :=
  (asciiLower m.text, m.stop.captures.map fun c => (c.slot, asciiLower c.text))

namespace Match

/-- What a match says does not depend on case. -/
theorem said_lower (m : Match) : m.lower.said = m.said := by
  have htext : m.lower.text = asciiLower m.text := Place.upTo_lower m.start m.stop.place
  rw [said, said, htext, Text.asciiLower_asciiLower]
  simp [lower, Reach.lower, Capture.lower, Function.comp_def]

theorem said_widen {u v : List Char} {m : Match} (h : m.stop.place.whole = m.start.whole) :
    (m.widen u v).said = m.said := by
  have htext : (m.widen u v).text = m.text := Place.upTo_widen h
  rw [said, said, htext]
  simp [widen, Reach.widen, Capture.widen, Function.comp_def]

variable {m m' : Match} (h : m.said = m'.said)

include h

/-- In lowercase, matches that say the same have the same text. -/
theorem asciiLower_text_of_said : asciiLower m.text = asciiLower m'.text :=
  congrArg Prod.fst h

/-- What is remembered under a number is the same up to case. -/
theorem capture?_of_said (slot : Nat) :
    (m.capture? slot).map (fun c => asciiLower c.text) =
      (m'.capture? slot).map fun c => asciiLower c.text := by
  have hcapture : ∀ m : Match, (m.capture? slot).map (fun c => asciiLower c.text) =
      (m.said.2.find? fun c => c.1 == slot).map (·.2) := by
    intro m
    rw [said, List.find?_map, Option.map_map]
    rfl
  rw [hcapture, hcapture, h]

theorem has_of_said (slot : Nat) : m.has slot = m'.has slot := by
  have hsome := congrArg Option.isSome (capture?_of_said h slot)
  simpa [has] using hsome

theorem asciiLower_group_of_said (slot : Nat) :
    asciiLower (m.group slot) = asciiLower (m'.group slot) := by
  have hcapture := capture?_of_said h slot
  unfold group
  cases hm : m.capture? slot <;> cases hm' : m'.capture? slot <;> simp_all

end Match

namespace Pattern

/-- Whether neither outer blanks nor case make a difference to a pattern. -/
def isPlain (p : Pattern) : Bool := p.isTight && p.ignoresCase

variable {p : Pattern} {s t : List Char} (hp : p.isPlain = true) (h : Alike s t)

include hp

theorem isTight_of_isPlain : p.isTight = true := ((Bool.and_eq_true _ _).mp hp).1

theorem ignoresCase_of_isPlain : p.ignoresCase = true := ((Bool.and_eq_true _ _).mp hp).2

include h

/-- The first matches in alike texts say the same. -/
theorem find?_alike : (p.find? s).map Match.said = (p.find? t).map Match.said := by
  refine h.congr (f := fun s => (p.find? s).map Match.said) (fun u v s hu hv => ?_) fun s => ?_
  · rw [find?_blanks (isTight_of_isPlain hp) hu hv, Option.map_map]
    refine Option.map_congr fun m hm => Match.said_widen ?_
    exact whole_of_mem_reaches (mem_reaches_of_find? hm).2
  · rw [find?_asciiLower (ignoresCase_of_isPlain hp), Option.map_map]
    exact Option.map_congr fun m _ => Match.said_lower m

/-- All matches in alike texts say the same, one by one. -/
theorem all_alike : (p.all s).map Match.said = (p.all t).map Match.said := by
  refine h.congr (f := fun s => (p.all s).map Match.said) (fun u v s hu hv => ?_) fun s => ?_
  · rw [all_blanks (isTight_of_isPlain hp) hu hv, List.map_map]
    refine List.map_congr_left fun m hm => Match.said_widen ?_
    exact whole_of_mem_reaches (mem_reaches_of_mem_all hm).2
  · rw [all_asciiLower (ignoresCase_of_isPlain hp), List.map_map]
    exact List.map_congr_left fun m _ => Match.said_lower m

/-- Alike texts stay alike when the matches are replaced by something that has no letters. -/
theorem replaceAll_alike {by_ : List Char} (hby : asciiLower by_ = by_) :
    Alike (p.replaceAll by_ s) (p.replaceAll by_ t) := by
  refine h.congr (f := fun s => asciiLower (Text.trim (p.replaceAll by_ s)))
    (fun u v s hu hv => ?_) fun s => ?_
  · rw [replaceAll_blanks (isTight_of_isPlain hp) hu hv]
    exact Text.alike_blanks hu hv _
  · have hreplace := replaceAll_asciiLower (ignoresCase_of_isPlain hp) by_ s
    rw [hby] at hreplace
    rw [hreplace]
    exact Text.alike_asciiLower _

/-- A plain pattern is found in both of two texts that are alike or in neither. -/
theorem isIn_alike : p.isIn s = p.isIn t := by
  have hsome := congrArg Option.isSome (find?_alike hp h)
  simpa [isIn] using hsome

/-- Either nothing is found in alike texts, or matches that say the same. -/
theorem find?_cases : p.find? s = none ∧ p.find? t = none ∨
    ∃ m m', p.find? s = some m ∧ p.find? t = some m' ∧ m.said = m'.said := by
  have hfind := find?_alike hp h
  cases hs : p.find? s with
  | none =>
    rw [hs, Option.map_none, eq_comm, Option.map_eq_none_iff] at hfind
    exact .inl ⟨rfl, hfind⟩
  | some m =>
    rw [hs, Option.map_some, eq_comm, Option.map_eq_some_iff] at hfind
    obtain ⟨m', hm', hsaid⟩ := hfind
    exact .inr ⟨m, m', rfl, hm', hsaid.symm⟩

/-- What is read out of the first match, whatever its case, is the same in alike texts. -/
theorem bind_find?_alike {α : Type} {f : Match → Option α}
    (hf : ∀ m m', m.said = m'.said → f m = f m') : (p.find? s).bind f = (p.find? t).bind f := by
  rcases find?_cases hp h with ⟨hs, ht⟩ | ⟨m, m', hs, ht, hsaid⟩
  · rw [hs, ht]
  · rw [hs, ht, Option.bind_some, Option.bind_some, hf m m' hsaid]

/-- What is read out of each match, whatever its case, is the same in alike texts. -/
theorem filterMap_all_alike {α : Type} {f : Match → Option α}
    (hf : ∀ m m', m.said = m'.said → f m = f m') :
    (p.all s).filterMap f = (p.all t).filterMap f := by
  have hall := all_alike hp h
  -- from here on only the lists of matches count
  generalize p.all s = ms at hall
  generalize p.all t = ms' at hall
  induction ms generalizing ms' with
  | nil =>
    rw [List.map_nil, eq_comm, List.map_eq_nil_iff] at hall
    rw [hall]
  | cons m ms ih =>
    rw [List.map_cons, eq_comm, List.map_eq_cons_iff] at hall
    obtain ⟨m', ms'', rfl, hsaid, hrest⟩ := hall
    rw [List.filterMap_cons, List.filterMap_cons, hf m m' hsaid.symm, ih ms'' hrest.symm]

end Pattern

end AskLedger
