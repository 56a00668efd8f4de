import Mathlib.Data.List.Find
import AskLedger.Command.Run
import AskLedger.Proofs.AlikeTexts
import AskLedger.Proofs.Conversation
import AskLedger.Proofs.SameReading

/-!
# Messages that say the same

All patterns that are looked for in a message neither start nor end with a blank and do not tell the
cases of a letter apart. What is read out of their matches, a number, a month or a kind of account,
does not depend on case either. So alike messages are answered alike: it does not matter whether a
message is taken as it was written or without its outer blanks, as conversations take it.

* `Question.sameReading_rephrased`: the same is read in alike messages.
* `FixedReplies.reply?_alike`: alike messages have the same fixed reply.
* `Question.answer_of_alike`: alike messages are answered alike, as questions and in conversations.
-/

namespace AskLedger

open Text (Alike asciiLower)

/-! ## What is read in alike messages -/

section Reading

variable {s t : List Char}

/-- What does not depend on case is the same of texts that differ in case only. -/
theorem Text.congr_asciiLower {α : Type} {f : List Char → α} (hf : ∀ s, f (asciiLower s) = f s)
    (h : asciiLower s = asciiLower t) : f s = f t := by
  rw [← hf s, h, hf]

variable {m m' : Match} (hsaid : m.said = m'.said)

section Groups

include hsaid

theorem DatePhrase.number?_of_said (slot : Nat) :
    number? (m.group slot) = number? (m'.group slot) :=
  Text.congr_asciiLower (Decimal.natUpTo?_asciiLower _) (Match.asciiLower_group_of_said hsaid slot)

/-- Matches that say the same give the same numeric date. -/
theorem DatePhrase.numericDateOf?_of_said : numericDateOf? m = numericDateOf? m' := by
  have hlength := congrArg List.length (Match.asciiLower_group_of_said hsaid 3)
  rw [Text.length_asciiLower, Text.length_asciiLower] at hlength
  simp only [numericDateOf?, number?_of_said hsaid, hlength]

theorem DatePhrase.isoDateOf?_of_said : isoDateOf? m = isoDateOf? m' := by
  simp only [isoDateOf?, number?_of_said hsaid]

theorem AmountPhrase.read?_of_said (slot : Nat) :
    read? (m.group slot) = read? (m'.group slot) := by
  refine Text.congr_asciiLower (fun s => ?_) (Match.asciiLower_group_of_said hsaid slot)
  rw [read?, read?, Text.without_asciiLower (by decide), Decimal.read?_asciiLower]

theorem Text.lower_group_of_said (slot : Nat) :
    Text.lower (m.group slot) = Text.lower (m'.group slot) :=
  Text.congr_asciiLower Text.lower_asciiLower (Match.asciiLower_group_of_said hsaid slot)

end Groups

variable (h : Alike s t)

include h

namespace DatePhrase

theorem readNumericDate?_alike : readNumericDate? s = readNumericDate? t :=
  Pattern.bind_find?_alike (by decide) h.trim fun _ _ => numericDateOf?_of_said

theorem readIsoDate?_alike : readIsoDate? s = readIsoDate? t :=
  Pattern.bind_find?_alike (by decide) h.trim fun _ _ => isoDateOf?_of_said

theorem endpoints?_alike : endpoints? s = endpoints? t := by
  rw [endpoints?, endpoints?]
  rcases Pattern.find?_cases (p := fromTo) (by decide) h with ⟨hs, ht⟩ | ⟨m, m', hs, ht, hsaid⟩
  · rw [hs, ht]
  · have hdate : ∀ slot, readNumericDate? (m.group slot) = readNumericDate? (m'.group slot) :=
      fun slot => readNumericDate?_alike
        (Text.alike_of_asciiLower (Match.asciiLower_group_of_said hsaid slot))
    simp only [hs, ht, hdate]

theorem findDay?_alike : findDay? s = findDay? t := by
  have hnumeric := Pattern.filterMap_all_alike (p := numericDate) (by decide) h
    (f := fun m => readNumericDate? m.text) fun m m' hsaid =>
      readNumericDate?_alike (Text.alike_of_asciiLower (Match.asciiLower_text_of_said hsaid))
  have hiso := Pattern.filterMap_all_alike (p := isoDate) (by decide) h
    (f := fun m => readIsoDate? m.text) fun m m' hsaid =>
      readIsoDate?_alike (Text.alike_of_asciiLower (Match.asciiLower_text_of_said hsaid))
  rw [findDay?, findDay?, ← List.head?_filterMap, ← List.head?_filterMap, ← List.head?_filterMap,
    ← List.head?_filterMap, hnumeric, hiso]

theorem findMonth?_alike : findMonth? s = findMonth? t := by
  rw [findMonth?, findMonth?]
  rcases Pattern.find?_cases (p := monthAndYear) (by decide) h with
    ⟨hs, ht⟩ | ⟨m, m', hs, ht, hsaid⟩
  · rw [hs, ht]
  · simp only [hs, ht, monthNumber?, Text.lower_group_of_said hsaid, number?_of_said hsaid]

/-- Without their dates, texts that are alike are alike. -/
theorem withoutDates_alike : Alike (withoutDates s) (withoutDates t) :=
  Pattern.replaceAll_alike (p := isoDate) (by decide)
    (Pattern.replaceAll_alike (p := numericDate) (by decide) h rfl) rfl

theorem bareYear?_alike : bareYear? s = bareYear? t := by
  refine Pattern.bind_find?_alike (by decide) (withoutDates_alike h) fun m m' hsaid => ?_
  rw [number?_of_said hsaid]

theorem period?_alike : period? s = period? t := by
  have hphrases : ∀ p ∈ periodPhrases, p.2.isPlain = true := by decide
  have hfind : (periodPhrases.find? fun p => p.2.isIn s) =
      periodPhrases.find? fun p => p.2.isIn t :=
    List.find?_congr fun p hp => Pattern.isIn_alike (hphrases p hp) h
  have hdays := Pattern.bind_find?_alike (p := lastDaysPhrase) (by decide) h
    (f := fun m => (number? (m.group 1)).map Period.lastDays) fun m m' hsaid => by
      rw [number?_of_said hsaid]
  rw [period?, period?, hfind, hdays]

/-- Alike messages are about the same dates. -/
theorem find?_alike (now : Moment) : find? s now = find? t now := by
  simp only [find?, findRange?, findYear?, findRelative?, endpoints?_alike h, findDay?_alike h,
    findMonth?_alike h, bareYear?_alike h, period?_alike h]

end DatePhrase

namespace AmountPhrase

theorem bound?_alike : bound? s = bound? t := by
  refine Pattern.bind_find?_alike (by decide) h fun m m' hsaid => ?_
  rw [read?_of_said hsaid, Match.has_of_said hsaid]

theorem between?_alike : between? s = between? t := by
  rw [between?, between?]
  rcases Pattern.find?_cases (p := between) (by decide) h with ⟨hs, ht⟩ | ⟨m, m', hs, ht, hsaid⟩
  · rw [hs, ht]
  · simp only [hs, ht, read?_of_said hsaid, Match.has_of_said hsaid]

end AmountPhrase

theorem DatePhrase.rangeWindow?_alike (now : Moment) : rangeWindow? s now = rangeWindow? t now := by
  simp only [rangeWindow?, endpoints?_alike h, AmountPhrase.between?_alike h]

namespace Direction

theorem asked?_alike : asked? s = asked? t := by
  rw [asked?, asked?, Pattern.isIn_alike (by decide) h, Pattern.isIn_alike (by decide) h]

end Direction

namespace Recurrence

theorem asked?_alike : asked? s = asked? t := by
  rw [asked?, asked?, Pattern.isIn_alike (by decide) h, Pattern.isIn_alike (by decide) h]

end Recurrence

namespace Account

theorem asked?_alike : asked? s = asked? t := by
  rw [asked?, asked?]
  rcases Pattern.find?_cases (p := phrase) (by decide) h with ⟨hs, ht⟩ | ⟨m, m', hs, ht, hsaid⟩
  · rw [hs, ht]
  · rw [hs, ht, Option.map_some, Option.map_some, Text.lower_group_of_said hsaid]

end Account

namespace Category

theorem isIn_alike (c : Category) : c.isIn s = c.isIn t :=
  Pattern.isIn_alike (by cases c <;> decide) h

theorem ofText?_alike : ofText? s = ofText? t :=
  List.find?_congr fun c _ => isIn_alike h c

theorem anyIn_alike : anyIn s = anyIn t := by
  rw [anyIn_eq_isSome, anyIn_eq_isSome, ofText?_alike h]

end Category

/-- Alike messages concern the ledger or neither does. -/
theorem Gate.admits_alike : admits s = admits t := by
  have hsigns : ∀ p ∈ signs, p.isPlain = true := by decide
  have hany : (signs.any fun p => p.isIn s) = signs.any fun p => p.isIn t := by
    rw [Bool.eq_iff_iff, List.any_eq_true, List.any_eq_true]
    exact exists_congr fun p => and_congr_right fun hp => by rw [Pattern.isIn_alike (hsigns p hp) h]
  rw [admits, admits, hany, Category.anyIn_alike h]

/-- Alike messages have the same keywords. -/
theorem Keyword.ofMessage_alike : ofMessage s = ofMessage t := by
  -- words are cut at blanks, and keywords are compared in lowercase
  refine h.congr (f := ofMessage) (fun u v s hu hv => ?_) fun s => ?_
  · rw [ofMessage, ofMessage, Text.words_blanks hu hv]
  · rw [ofMessage, ofMessage, Text.words_asciiLower, List.map_map]
    simp only [Function.comp_def, Text.lower_asciiLower]

namespace Ranking

theorem counts_alike : counts s = counts t := by
  refine Pattern.filterMap_all_alike (by decide) h fun m m' hsaid => ?_
  rw [Match.has_of_said hsaid, Text.congr_asciiLower (Decimal.natUpTo?_asciiLower _)
    (Match.asciiLower_group_of_said hsaid 1)]

/-- Alike messages ask for the same ranking. -/
theorem find?_alike (defaultLimit : Nat) : find? s defaultLimit = find? t defaultLimit := by
  have hkey : keyAndOrder? s = keyAndOrder? t := by
    rw [keyAndOrder?, keyAndOrder?, Pattern.isIn_alike (by decide) h,
      Pattern.isIn_alike (by decide) h, Pattern.isIn_alike (by decide) h]
  simp only [find?, hkey, limit?, counts_alike h]

end Ranking

/-- The filters test entries in the same way where messages are alike. -/
theorem Filter.tests_alike (now : Moment) : tests s now = tests t now := by
  simp only [tests, all, amountBound, amountRange, dateRange, direction, recurrence, account,
    category, AmountPhrase.range?, AmountPhrase.bound?_alike h, AmountPhrase.between?_alike h,
    DatePhrase.rangeWindow?_alike h, Direction.asked?_alike h, Recurrence.asked?_alike h,
    Account.asked?_alike h, Category.ofText?_alike h, List.filterMap_cons, List.filterMap_nil]

end Reading

namespace Question

/-- The same question in other words. -/
def rephrased (q : Question) (text : List Char) : Question := { q with text }

/-- The same is read in alike messages. -/
theorem sameReading_rephrased (q : Question) {text : List Char} (h : Alike q.text text) :
    SameReading q (q.rephrased text) where
  ledger := rfl
  options := rfl
  admits := Gate.admits_alike h
  dates := DatePhrase.find?_alike h q.now
  keywords := Keyword.ofMessage_alike h
  tests := Filter.tests_alike h q.now
  shows := Pattern.isIn_alike (by decide) h
  category := Category.anyIn_alike h
  ranking := Ranking.find?_alike h q.options.rankedRows
  bareYear := DatePhrase.bareYear?_alike h

/-- The same is answered to alike messages, and the same is picked for them. -/
theorem answer_rephrased (q : Question) {text : List Char} (h : Alike q.text text) :
    (q.rephrased text).answer = q.answer ∧ (q.rephrased text).shortlist = q.shortlist ∧
      (q.rephrased text).answer? = q.answer? :=
  ⟨(q.sameReading_rephrased h).answer_eq.symm, (q.sameReading_rephrased h).shortlist_eq.symm,
    (q.sameReading_rephrased h).answer?_eq.symm⟩

end Question

/-! ## Messages with blanks around them -/

/-- Alike messages have the same fixed reply, if the words of the table have no blanks. -/
theorem FixedReplies.reply?_alike {table : FixedReplies}
    (htable : ∀ e ∈ table.entries,
      e.1.toList ≠ [] ∧ e.1.toList.all (Text.isBlank · = false) = true)
    {s t : String} (h : Alike s.toList t.toList) : table.reply? s = table.reply? t := by
  have hfind := h.congr (f := fun text => table.entries.find? fun e =>
      Text.occursIn e.1.toList (Text.lower text))
    (fun u v s hu hv => List.find?_congr fun e he => by
      obtain ⟨hne, hword⟩ := htable e he
      rw [Text.lower_blanks hu hv, Text.occursIn_blanks hu hv hne (Text.forall_of_all hword)])
    fun s => by simp only [Text.lower_asciiLower]
  exact congrArg (Option.map (·.2)) hfind

/-- The words of the standard table have no blanks. -/
theorem FixedReplies.standard_alike {s t : String} (h : Alike s.toList t.toList) :
    standard.reply? s = standard.reply? t :=
  reply?_alike (by decide) h

/-- A message that is not blank is taken as it is, apart from its outer blanks. -/
theorem Chat.alike_normalized {message : String} (h : Text.isAllBlank message.toList = false) :
    Alike message.toList (normalized message).toList := by
  have hne : Text.trim message.toList ≠ [] := by
    intro hnil
    obtain ⟨u, v, hu, hv, hs⟩ := Text.exists_trim message.toList
    rw [hnil, List.append_nil] at hs
    have hall : Text.isAllBlank message.toList = true := by
      rw [Text.isAllBlank, List.all_eq_true, hs]
      exact fun c hc => (List.mem_append.1 hc).elim (hu c) (hv c)
    rw [h] at hall
    cases hall
  have hempty : (Text.trimmed message).isEmpty = false := by
    rw [Bool.eq_false_iff, Ne, String.isEmpty_iff, ← String.toList_eq_nil_iff, Text.trimmed,
      String.toList_ofList]
    exact hne
  have hnormalized : normalized message = Text.trimmed message := by simp [normalized, hempty]
  rw [hnormalized, Text.trimmed, String.toList_ofList, Alike, Text.trim_trim]

namespace Command

variable {m : Type → Type} [Monad m] (h : Host m)

/-- Alike questions are answered with the same text, wherever they are asked. -/
theorem answerText_alike (q : QueryCommand) {words : List String}
    (halike : Alike q.message.toList (QueryCommand.message { q with words }).toList) :
    answerText h { q with words } = answerText h q := by
  have hreply := FixedReplies.standard_alike halike
  have hanswer : ∀ ledger now options,
      ({ text := (QueryCommand.message { q with words }).toList, ledger, now, options } :
          Question).answer? =
        ({ text := q.message.toList, ledger, now, options } : Question).answer? :=
    fun ledger now options => (Question.answer_rephrased
      { text := q.message.toList, ledger, now, options } halike).2.2
  simp only [answerText, ← hreply, hanswer]
  rfl

end Command

namespace Question

/-- Messages that differ at most in the case of ASCII letters and in outer blanks get the same
answer, or none, and the same dates, ranking, keywords and entries are picked for them. So a
message that is not blank is answered alike by a command, where it is taken as it was written,
and in a conversation, where it is taken without its outer blanks. It has a fixed reply as both
or as neither, and the command does the same for both. Without a fixed reply, command and
conversation meet: the command shows the answer to the message as it was written, in the ledger
and at the time that the place gives, and it is that answer which is told in a conversation with
the same ledger at the same time. -/
theorem answer_of_alike :
    (∀ (q : Question) (text : List Char), Alike q.text text →
      (q.rephrased text).answer = q.answer ∧ (q.rephrased text).shortlist = q.shortlist ∧
        (q.rephrased text).answer? = q.answer?) ∧
    ∀ q : QueryCommand, Text.isAllBlank q.message.toList = false →
      let answer? := fun (ledger : List Entry) (now : Moment) (options : AnswerOptions) =>
        ({ text := q.message.toList, ledger, now, options } : Question).answer?
      FixedReplies.standard.reply? (Chat.normalized q.message) =
        FixedReplies.standard.reply? q.message ∧
      (∀ {m : Type → Type} [Monad m] (h : Host m),
        Command.answerText h { q with words := [Chat.normalized q.message] } =
          Command.answerText h q) ∧
      (∀ {m : Type → Type} [Monad m] (h : Host m),
        FixedReplies.standard.reply? (Chat.normalized q.message) = none →
        Command.answerText h q = do
          let settings ← h.settings
          let (now, ledger) ← Command.presentAndLedger h settings q
          match answer? ledger now settings.answers.options with
          | some answer => return Command.textOf q answer
          | none => throw .noOrder) ∧
      ∀ (c : Chat) (ledger : List Entry) (now : Moment),
        c.fixed.reply? (Chat.normalized q.message) = none →
        match answer? ledger now c.options with
        | some answer => ∃ prompt,
          (c.prepared ⟨q.message, now, some ledger⟩).1.1 = some (.prompt prompt answer)
        | none => (c.prepared ⟨q.message, now, some ledger⟩).1.1 = none := by
  refine ⟨fun q text h => answer_rephrased q h, ?_⟩
  intro q hmessage answer?
  -- a conversation hears a message without its outer blanks, which is a message alike
  have halike := Chat.alike_normalized hmessage
  have hsame := FixedReplies.standard_alike halike
  refine ⟨hsame.symm, ?_, ?_, ?_⟩
  · intro m _ h
    exact Command.answerText_alike h q halike
  · intro m _ h hnone
    rw [← hsame] at hnone
    simp only [Command.answerText, hnone]
    rfl
  · intro c ledger now hnone
    have hprepared := Chat.prepared_of_none (t := ⟨q.message, now, some ledger⟩) hnone
    have hanswer : c.answer? (Chat.normalized q.message) now (some ledger) =
        answer? ledger now c.options := (answer_rephrased
      { text := q.message.toList, ledger, now, options := c.options } halike).2.2
    rw [hprepared, hanswer]
    cases answer? ledger now c.options with
    | some answer => exact ⟨_, rfl⟩
    | none => rfl

/-- A question in capitals and with blanks around it. -/
def askedLoudly : QueryCommand :=
  ⟨none, none, none, false, [" ", "EXPENSES in", "June", "2025\t"]⟩

/-- It is answered as if it were written plainly, and so it is in a conversation. -/
theorem loudly_is_answered :
    Alike (askedInJune "expenses in june 2025").text askedLoudly.message.toList ∧
    ((askedInJune "expenses in june 2025").rephrased askedLoudly.message.toList).answer =
      (askedInJune "expenses in june 2025").answer ∧
    Text.isAllBlank askedLoudly.message.toList = false ∧
    FixedReplies.standard.reply? (Chat.normalized askedLoudly.message) = none ∧
    ∃ prompt, ((Chat.start 1 {} .standard).prepared
        ⟨askedLoudly.message, (askedInJune "").now, some [rent]⟩).1.1 =
      some (.prompt prompt (askedInJune askedLoudly.message).answer) := by
  have halike : Alike (askedInJune "expenses in june 2025").text askedLoudly.message.toList := by
    decide +kernel
  have hblank : Text.isAllBlank askedLoudly.message.toList = false := by decide +kernel
  have hnone : FixedReplies.standard.reply? (Chat.normalized askedLoudly.message) = none := by
    decide +kernel
  have hanswer : (⟨askedLoudly.message.toList, [rent], (askedInJune "").now, {}⟩ : Question).answer? =
      some (askedInJune askedLoudly.message).answer :=
    answer?_of_isRanked (q := askedInJune askedLoudly.message) (by decide +kernel)
  have hmeet := (answer_of_alike.2 askedLoudly hblank).2.2.2 (Chat.start 1 {} .standard) [rent]
    (askedInJune "").now hnone
  have hoptions : (Chat.start 1 {} .standard).options = {} := rfl
  simp only [hoptions, hanswer] at hmeet
  exact ⟨halike, (answer_of_alike.1 _ _ halike).1, hblank, hnone, hmeet⟩

end Question

end AskLedger
