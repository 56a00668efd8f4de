import AskLedger.Proofs.MessagePhrases
import AskLedger.Proofs.Numerals
import AskLedger.Proofs.RankedEntries

/-!
# The top entries

A message `top` with a number asks for so many entries with the largest amounts. It names no dates
and contains no phrase of a filter, so its keywords decide what is ranked: the entries in which
`top` or a number of three digits occurs, or the whole ledger if there are none.

* `Question.top_entries`: what such a message is answered with.
-/

namespace AskLedger

open Decimal (numeral)

namespace Question

/-! ## The message -/

/-- The message that asks for the top `n` entries. -/
def topText (n : Nat) : List Char := ("top " ++ toString n).toList

/-- The keywords of this message: the word and, from one hundred on, the number. -/
def topKeywords (n : Nat) : List (List Char) :=
  "top".toList :: if 100 ≤ n then [(toString n).toList] else []

/-- The characters of such messages. -/
def topChars : List Char := "top 0123456789".toList

variable {n : Nat}

theorem topText_eq (n : Nat) : topText n = "top ".toList ++ numeral n := by
  rw [topText, String.toList_append, Decimal.numeral_eq_toString]

/-- A pattern that cannot read the characters of such messages is in none of them. -/
theorem absent_topText {p : Pattern} (h : p.cannotRead topChars = true) :
    p.IsAbsent (topText n) := by
  have hfront : ∀ c ∈ "top ".toList, c ∈ topChars := Text.forall_of_all (by decide)
  have hdigits : ∀ c ∈ numeral n, c ∈ topChars := Decimal.forall_mem_numeral (by decide) n
  apply Pattern.isAbsent_of_cannotRead h
  rw [topText_eq]
  exact List.forall_mem_append.2 ⟨hfront, hdigits⟩

/-- Two words of the message count at most. -/
theorem keywords_topText (n : Nat) : Keyword.ofMessage (topText n) = topKeywords n := by
  have hwords : Text.words (topText n) = ["top".toList, numeral n] := by
    have htop : "top ".toList ++ numeral n = "top".toList ++ ' ' :: numeral n := rfl
    rw [topText_eq, htop, Text.words_append (by decide) (Text.forall_of_all (by decide)),
      Text.words_eq_singleton (Decimal.numeral_ne_nil n) Text.isBlank_of_mem_numeral]
  have htop : Keyword.counts "top".toList = true := by decide
  have hlowerTop : Text.lower "top".toList = "top".toList := by decide
  rw [Keyword.ofMessage, hwords, topKeywords, ← Decimal.numeral_eq_toString]
  simp only [List.map_cons, List.map_nil, hlowerTop,
    Text.lower_eq_self Text.isLowered_of_mem_numeral, List.filter_cons, List.filter_nil, htop,
    Keyword.counts_numeral, decide_eq_true_eq, if_true]

/-- No dates are found in it. -/
theorem dates_topText (hn : ¬(2024 ≤ n ∧ n ≤ 2026)) (now : Moment) :
    DatePhrase.find? (topText n) now = none := by
  have hphrases : ∀ p ∈ DatePhrase.phrases, p.cannotRead topChars = true := by decide
  have hstart : ∀ c ∈ "top ".toList, DatePhrase.yearWord.cannotStart c = true :=
    Text.forall_of_all (by decide)
  -- the search passes over the word first and then over the number, which is no year
  have hyear : DatePhrase.yearWord.find? (topText n ++ []) = none := by
    rw [Pattern.find?, topText_eq, List.append_assoc,
      Pattern.findFrom?_append_of_cannotStart _ _ hstart,
      DatePhrase.findFrom?_yearWord_numeral rfl hn]
    exact Pattern.matchAt?_eq_none (Pattern.reaches_eq_nil_of_takesSome rfl)
  rw [List.append_nil] at hyear
  rw [DatePhrase.find?_of_absent (fun p hp => absent_topText (hphrases p hp)), hyear]
  rfl

/-- No filter finds its phrase in it. -/
theorem tests_topText (now : Moment) : Filter.tests (topText n) now = [] := by
  have hphrases : ∀ p ∈ Filter.phrases, p.cannotRead topChars = true := by decide
  have hbetween : AmountPhrase.between.cannotRead topChars = true := by decide
  have hexpense : Direction.expenseWord.cannotRead topChars = true := by decide
  have hrange : DatePhrase.fromTo.cannotRead topChars = true := by decide
  have hnobetween : AmountPhrase.between? (topText n) = none := by
    simp [AmountPhrase.between?, (absent_topText hbetween).find?]
  have hnorange : DatePhrase.rangeWindow? (topText n) now = none := by
    simp [DatePhrase.rangeWindow?, DatePhrase.endpoints?, (absent_topText hrange).find?,
      hnobetween]
  rw [Filter.tests_of_absent (fun p hp => absent_topText (hphrases p hp)) now hnorange]
  simp [AmountPhrase.range?, hnobetween, (absent_topText hexpense).isIn]

/-- It concerns the ledger. -/
theorem admits_topText : Gate.admits (topText n) = true := by
  have hmatch : ((Pattern.whole (.oneOfWords Gate.askingWords)).matchAt?
      ⟨[], "top ".toList ++ numeral n⟩).isSome = true := rfl
  have hasking : (Pattern.whole (.oneOfWords Gate.askingWords)).isIn (topText n) = true :=
    topText_eq n ▸ Pattern.isIn_iff.2 ⟨[], _, rfl, hmatch⟩
  simp [Gate.admits, Gate.signs, hasking]

/-- The count phrase in it reads the number. -/
theorem reaches_countPhrase (n : Nat) :
    Ranking.countPhrase.reaches ⟨⟨[], "top ".toList ++ (numeral n ++ [])⟩, []⟩ =
      [⟨⟨(numeral n).reverse ++ "top ".toList.reverse, []⟩, [⟨1, 4, numeral n⟩]⟩] := by
  have hwords : (Pattern.oneOfWords ["top", "latest", "recent", "first", "last"]).reaches
      ⟨⟨[], "top ".toList ++ (numeral n ++ [])⟩, []⟩ =
      [⟨⟨"top".toList.reverse, ' ' :: (numeral n ++ [])⟩, []⟩] := rfl
  rw [Ranking.countPhrase, Pattern.inOrder_cons, Pattern.reaches_edge_both_of_edge rfl,
    Pattern.inOrder_cons, Pattern.reaches_both_of_singleton hwords,
    Pattern.inOrder_cons, Pattern.reaches_both_of_singleton
      (Pattern.reaches_gap Decimal.isBlank_of_mem_head?),
    Pattern.inOrder_cons, Pattern.reaches_capture_both (Decimal.readsWhole_digits (by simp))]
  · exact Pattern.reaches_optional_edge_end rfl (Decimal.atWordEdge_behind rfl)
  · -- from inside the number neither a unit of time nor a word boundary can follow
    intro a c b captures hsplit ha
    have hstart : ∀ c ∈ numeral n, Pattern.cannotStart c (.capture 2 (.both .gap
        (.anyOf [.plural "day", .plural "week", .plural "month", .plural "year"]))) = true :=
      Decimal.forall_mem_numeral (by decide) n
    have hc : c ∈ numeral n := by rw [hsplit]; simp
    exact Pattern.reaches_optional_edge_inside (hstart c hc) (Decimal.not_atWordEdge hsplit ha)

/-- The number of the message is its limit. -/
theorem limit?_topText (hpos : 1 ≤ n) (hn : n ≤ Decimal.largestCount) :
    Ranking.limit? (topText n) = some n := by
  have hreaches := reaches_countPhrase n
  rw [List.append_nil, ← topText_eq] at hreaches
  have hne : topText n ≠ [] := by
    rw [topText_eq]
    exact List.cons_ne_nil _ _
  obtain ⟨others, hall⟩ := Pattern.all_eq_cons hne (Pattern.matchAt?_eq_some hreaches)
  simp [Ranking.limit?, Ranking.counts, hall, Match.has, Match.group, Match.capture?,
    Decimal.natUpTo?_numeral hn, Nat.lt_of_lt_of_le Nat.zero_lt_one hpos]

/-- The ranking that it asks for puts the largest amounts first. -/
theorem ranking_topText (hpos : 1 ≤ n) (hn : n ≤ Decimal.largestCount) (defaultLimit : Nat) :
    Ranking.find? (topText n) defaultLimit = some ⟨.amount, .descending, n⟩ := by
  have hsmallest : Ranking.smallestWord.cannotRead topChars = true := by decide
  have hmatch : (Ranking.biggestWord.matchAt? ⟨[], "top ".toList ++ numeral n⟩).isSome = true := rfl
  have hbiggest : Ranking.biggestWord.isIn (topText n) = true :=
    topText_eq n ▸ Pattern.isIn_iff.2 ⟨[], _, rfl, hmatch⟩
  simp [Ranking.find?, Ranking.keyAndOrder?, (absent_topText hsmallest).isIn, hbiggest,
    limit?_topText hpos hn]

/-! ## The answer -/

variable {q : Question}

/-- The filters leave the entries in which a keyword of the message occurs. -/
theorem narrowed_of_top (htext : q.text = topText n) (hyear : ¬(2024 ≤ n ∧ n ≤ 2026)) :
    q.narrowed = q.ledger.filter (Keyword.occurIn (topKeywords n)) := by
  have htests : Filter.tests q.text q.now = [] := by rw [htext, tests_topText]
  have hdates : q.dates? = none := by rw [dates?, htext, dates_topText hyear]
  rw [Filter.tests] at htests
  rw [narrowed, Filter.narrowBy_eq_narrow, htests, Filter.narrow_nil, candidates, base, hdates,
    htext, keywords_topText]

/-- No word in the message asks for the newest entries. -/
theorem unranked_of_top (htext : q.text = topText n) : q.unranked = q.narrowed := by
  have hcannot : showWord.cannotRead topChars = true := by decide
  simp [unranked, fallsBack, htext, (absent_topText hcannot).isIn]

/-- Let the amounts of a ledger all be numbers. With default options but for the number of shown
rows, a message `top n` for a number that is no year and does not exceed that of the shown rows is
answered with the first `n` rows by amount. The rows are those in which `top` occurs or, if it has
three digits or more, the number; only if there are none, they are the whole ledger. -/
theorem top_entries (q : Question) {n shown : Nat} (htext : q.text = topText n)
    (hoptions : q.options = { shownRows := shown }) (hpos : 1 ≤ n) (hn : n ≤ shown)
    (hshown : shown ≤ Decimal.largestCount) (hyear : ¬(2024 ≤ n ∧ n ≤ 2026))
    (hledger : q.ledger ≠ []) (hamounts : ∀ e ∈ q.ledger, e.amount.isNaN = false) :
    let named := q.ledger.filter (Keyword.occurIn (topKeywords n))
    let pool := if named = [] then q.ledger else named
    ∃ full detail, Entry.IsByAmount pool full ∧ detail.rows = full.take n ∧
      detail.count = min n pool.length ∧
      q.answer = .found (.detail detail) (Summary.of detail.rows) ∧
      q.answer? = some q.answer := by
  intro named pool
  have hranking : q.ranking? = some ⟨.amount, .descending, n⟩ := by
    rw [ranking?, htext, ranking_topText hpos (Nat.le_trans hn hshown)]
  -- with rescue, a ranking of nothing starts over from the ledger
  have hqpool : q.pool = pool := by
    simp only [Question.pool, hoptions, Rescue.input_fromLedger, unranked_of_top htext,
      narrowed_of_top htext hyear]
    rfl
  have hentries : q.shortlist.entries = Ranking.apply ⟨.amount, .descending, n⟩ pool := by
    simp only [shortlist, hranking, hqpool]
  have hpool : ∀ e ∈ pool, e ∈ q.ledger := by
    intro e he
    simp only [pool] at he
    split at he
    · exact he
    · exact (List.mem_filter.1 he).1
  have hne : pool ≠ [] := by
    simp only [pool]
    split
    · exact hledger
    · assumption
  obtain ⟨full, hfull, happly⟩ :=
    Ranking.ranked?_byAmount n fun e he => hamounts e (hpool e he)
  have hisRanked : q.isRanked = true := by
    simp only [isRanked, hranking, hqpool, happly, Option.isSome_some]
  rw [Ranking.apply_of_ranked? happly] at hentries
  have hlength : (full.take n).length = min n pool.length := by
    rw [List.length_take, hfull.perm.length_eq]
  have hfound : full.take n ≠ [] := by
    have hpoolLength : 0 < pool.length := List.length_pos_iff.2 hne
    rw [← List.length_pos_iff, hlength]
    omega
  have hyearOnly : q.shortlist.yearOnly = false := by
    simp [shortlist, yearOnly, hranking]
  refine ⟨full, ⟨full.take n, (Summary.of (full.take n)).total, min n pool.length⟩, hfull, rfl, rfl,
    ?_, answer?_of_isRanked hisRanked⟩
  -- no more rows are asked for than are shown
  have hrows : (full.take n).take shown = full.take n :=
    List.take_of_length_le (by rw [hlength]; omega)
  have hcount : (Summary.of (full.take n)).count = min n pool.length := hlength
  have hadmits : Gate.admits q.text = true := by rw [htext, admits_topText]
  simp [answer, hadmits, report, hentries, hfound, hyearOnly, hoptions, Payload.shape, hrows,
    hcount]

/-- A small expense with a description in which `top` occurs. -/
def laptop : Entry := { rent with id := "laptop", description? := some "Laptop", amount := 10 }

/-- A question for the top entry of two, of which only the smaller is about something with `top` in
it. -/
def aboutTop : Question where
  text := topText 1
  ledger := [laptop, rent]
  now := rent.date

/-- The only entry that is named is the top entry, though it is the smaller one. -/
theorem named_entry_is_top :
    (aboutTop.ledger.filter (Keyword.occurIn (topKeywords 1))).map (·.id) = ["laptop"] ∧
      ∃ full detail,
        Entry.IsByAmount (aboutTop.ledger.filter (Keyword.occurIn (topKeywords 1))) full ∧
        detail.rows = full.take 1 ∧ detail.count = 1 ∧
        aboutTop.answer = .found (.detail detail) (Summary.of detail.rows) := by
  have hnamed : (aboutTop.ledger.filter (Keyword.occurIn (topKeywords 1))).map (·.id) =
      ["laptop"] := by decide
  have hlength := congrArg List.length hnamed
  rw [List.length_map] at hlength
  have hne : aboutTop.ledger.filter (Keyword.occurIn (topKeywords 1)) ≠ [] :=
    List.ne_nil_of_length_eq_add_one hlength
  have hamounts : ∀ e ∈ aboutTop.ledger, e.amount.isNaN = false := by decide
  obtain ⟨full, detail, hfull, hrows, hcount, hanswer, -⟩ :=
    @top_entries aboutTop 1 15 rfl rfl (Nat.le_refl 1) (by decide) (by decide) (by decide)
      (List.cons_ne_nil _ _) hamounts
  rw [if_neg hne] at hfull hcount
  refine ⟨hnamed, full, detail, hfull, hrows, ?_, hanswer⟩
  rw [hcount, hlength]
  rfl

/-- The rows that an answer shows in detail, by their identifiers. -/
def rowIds : Answer → List String
  | .found (.detail d) _ => d.rows.map (·.id)
  | _ => []

/-- The top entry need not have the largest amount of the ledger. -/
theorem top_entry_is_not_largest :
    ¬ ∀ (q : Question) (n shown : Nat), q.text = topText n → q.options = { shownRows := shown } →
      1 ≤ n → n ≤ shown → shown ≤ Decimal.largestCount → ¬(2024 ≤ n ∧ n ≤ 2026) →
      q.ledger ≠ [] → (∀ e ∈ q.ledger, e.amount.isNaN = false) →
      ∃ full detail, Entry.IsByAmount q.ledger full ∧ detail.rows = full.take n ∧
        q.answer = .found (.detail detail) (Summary.of detail.rows) := by
  intro hall
  have hamounts : ∀ e ∈ aboutTop.ledger, e.amount.isNaN = false := by decide
  obtain ⟨full, detail, hfull, hrows, hanswer⟩ := hall aboutTop 1 15 rfl rfl (Nat.le_refl 1)
    (by decide) (by decide) (by decide) (List.cons_ne_nil _ _) hamounts
  have hids : rowIds aboutTop.answer = ["laptop"] := by decide
  rw [hanswer, rowIds, hrows] at hids
  -- the only row is `laptop`, but no amount may be larger than that of the first row
  cases full with
  | nil => cases hids
  | cons first rest =>
    have hid : first.id = "laptop" := by simpa using hids
    have hfirst : first = laptop := by
      have hmem : first ∈ [laptop, rent] := hfull.perm.mem_iff.1 List.mem_cons_self
      rcases List.mem_cons.1 hmem with h | h
      · exact h
      · rw [List.mem_singleton.1 h] at hid
        exact absurd hid (by decide)
    have hrent : rent ∈ first :: rest := hfull.perm.mem_iff.2 (by simp [aboutTop])
    rcases List.mem_cons.1 hrent with h | h
    · rw [← h] at hid
      exact absurd hid (by decide)
    · have hle := (List.pairwise_cons.1 hfull.descending).1 rent h
      rw [hfirst] at hle
      exact absurd hle (by decide)

end Question

end AskLedger
