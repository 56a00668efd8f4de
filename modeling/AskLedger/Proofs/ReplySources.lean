import Mathlib.Data.List.Find
import AskLedger.Proofs.Conversation
import AskLedger.Proofs.LetterCase
import AskLedger.Proofs.OuterBlanks

/-!
# Where replies come from

A reply is a fixed one, what a model says, an apology or a notice of failure. Fixed replies go by
the message as it is heard, so without outer blanks and with the standard message in place of a
blank one; the words that are added to a table may be given in any case. What a model says is shown
without asterisks and outer blanks, and nothing more can be taken from it in the same way.

* `FixedReplies.reply?_addAll`: the fixed reply is that of the first word that occurs.
* `FixedReplies.occurs_normalized`: when a word occurs in the message as it was written.
* `Chat.cleaned?_eq_some`: what becomes of what a model says.
* `Chat.reply_sources`: where a reply comes from.
-/

namespace AskLedger

namespace Text

/-- Nothing is left of a text that is blank. -/
theorem trim_eq_nil_iff {s : List Char} : trim s = [] ↔ ∀ c ∈ s, isBlank c = true := by
  constructor
  · intro h
    obtain ⟨u, v, hu, hv, hs⟩ := exists_trim s
    rw [h, List.append_nil] at hs
    rw [hs]
    exact List.forall_mem_append.2 ⟨hu, hv⟩
  · intro h
    simpa using trim_blanks h (v := []) (by simp) []

/-- What stands in a trimmed text stands in the text. -/
theorem mem_of_mem_trim {s : List Char} {c : Char} (h : c ∈ trim s) : c ∈ s := by
  obtain ⟨u, v, -, -, hs⟩ := exists_trim s
  rw [hs]
  simp [h]

/-- A word in lowercase stays in front. -/
theorem prefix_lowerFrom {w : List Char} (hw : ∀ c ∈ w, isLowered c = true)
    (before rest : List Char) : w <+: lowerFrom before (w ++ rest) := by
  induction w generalizing before with
  | nil => exact List.nil_prefix
  | cons c w ih =>
    obtain ⟨hc, hrest⟩ := List.forall_mem_cons.1 hw
    obtain ⟨hsigma, hsmall⟩ := (Bool.and_eq_true _ _).mp hc
    rw [List.cons_append, lowerFrom, if_neg (bne_iff_ne.1 hsigma), beq_iff_eq.1 hsmall,
      List.singleton_append, List.cons_prefix_cons]
    exact ⟨rfl, ih hrest _⟩

/-- What lowercasing leaves as it is is still found when all around it is lowercased as well. -/
theorem infix_lower {w s : List Char} (hw : ∀ c ∈ w, isLowered c = true) (h : w <:+: s) :
    w <:+: lower s := by
  obtain ⟨u, v, rfl⟩ := h
  suffices hfrom : ∀ before, w <:+: lowerFrom before (u ++ w ++ v) from hfrom []
  induction u with
  | nil => exact fun before => (prefix_lowerFrom hw before v).isInfix
  | cons c u ih =>
    intro before
    -- whatever becomes of a character in front, the rest is lowercased behind it
    rw [List.cons_append, List.cons_append, lowerFrom]
    split
    · exact (ih _).trans (List.suffix_cons _ _).isInfix
    · exact (ih _).trans (List.suffix_append _ _).isInfix

end Text

/-! ## Words in a message -/

namespace FixedReplies

/-- Whether a word occurs in a message, both in any case. -/
def occurs (word message : String) : Bool :=
  Text.occursIn (Text.lower word.toList) (Text.lower message.toList)

/-- The table with more words behind its own, each with its text. -/
def addAll (table : FixedReplies) (added : List (String × String)) : FixedReplies :=
  added.foldl (fun t e => t.add e.1 e.2) table

/-- Added words come behind the others, in lowercase. -/
theorem entries_addAll (table : FixedReplies) (added : List (String × String)) :
    (table.addAll added).entries = table.entries ++ added.map fun e => (Text.lowered e.1, e.2) := by
  induction added generalizing table with
  | nil => simp [addAll]
  | cons e added ih =>
    rw [addAll, List.foldl_cons, ← addAll, ih, add, List.append_assoc]
    rfl

/-- The words of the tables that there are from the start. -/
theorem isLowered_of_mem {base : FixedReplies} (hbase : base = .empty ∨ base = .standard)
    {e : String × String} (he : e ∈ base.entries) :
    e.1.toList ≠ [] ∧ ∀ c ∈ e.1.toList, Text.isLowered c = true ∧ Text.isBlank c = false := by
  rcases hbase with rfl | rfl
  · cases he
  · have hall : ∀ word ∈ ["bhuvan", "creatzion", "rubesh", "yashwanth"], word.toList ≠ [] ∧
        word.toList.all (fun c => Text.isLowered c && !Text.isBlank c) = true := by
      decide
    have hmem : e.1 ∈ standard.entries.map Prod.fst := List.mem_map_of_mem he
    obtain ⟨hne, hchars⟩ := hall e.1 hmem
    exact ⟨hne, by simpa using hchars⟩

/-- The fixed reply to a message is the text of the first word that occurs in it. -/
theorem reply?_addAll {base : FixedReplies} (hbase : base = .empty ∨ base = .standard)
    (added : List (String × String)) (message : String) :
    (base.addAll added).reply? message =
      ((base.entries ++ added).find? fun e => occurs e.1 message).map (·.2) := by
  have hown : (base.entries.map fun e => (Text.lowered e.1, e.2)) = base.entries := by
    refine (List.map_congr_left fun e he => ?_).trans (List.map_id _)
    have hlower := Text.lower_eq_self fun c hc => ((isLowered_of_mem hbase he).2 c hc).1
    rw [Text.lowered, hlower, String.ofList_toList, id]
  have hentries : (base.addAll added).entries =
      (base.entries ++ added).map fun e => (Text.lowered e.1, e.2) := by
    rw [entries_addAll, List.map_append, hown]
  rw [reply?, hentries, List.find?_map, Option.map_map]
  congr 1
  refine congrArg (fun p => List.find? p _) (funext fun e => ?_)
  rw [occurs, Function.comp_apply, Text.lowered, String.toList_ofList]

variable {word message : String}

/-- A word without blanks that occurs in a message occurs in the message as it is heard. -/
theorem occurs_normalized (hne : Text.lower word.toList ≠ [])
    (hsolid : ∀ c ∈ Text.lower word.toList, Text.isBlank c = false)
    (h : Text.trim message.toList ≠ []) :
    occurs word (Chat.normalized message) = occurs word message := by
  obtain ⟨u, v, hu, hv, hs⟩ := Text.exists_trim message.toList
  have hnormalized : Chat.normalized message = Text.trimmed message := by
    have hempty : (Text.trimmed message).isEmpty = false := by
      simpa [Text.trimmed] using h
    simp [Chat.normalized, hempty]
  have hlower : Text.lower message.toList = u ++ Text.lower (Text.trim message.toList) ++ v := by
    rw [← Text.lower_blanks hu hv, ← hs]
  rw [occurs, occurs, hnormalized, Text.trimmed, String.toList_ofList, hlower,
    Text.occursIn_blanks hu hv hne hsolid]

/-- A message in which a word without blanks occurs is not blank. -/
theorem trim_ne_nil_of_occurs (hne : Text.lower word.toList ≠ [])
    (hsolid : ∀ c ∈ Text.lower word.toList, Text.isBlank c = false)
    (h : occurs word message = true) : Text.trim message.toList ≠ [] := by
  intro hnil
  obtain ⟨u, v, hu, hv, hs⟩ := Text.exists_trim message.toList
  rw [hnil] at hs
  rw [occurs, hs, Text.lower_blanks hu hv, Text.occursIn_blanks hu hv hne hsolid,
    Text.occursIn_iff] at h
  exact hne (List.infix_nil.1 h)

/-- The names of the standard table occur in a message as it is heard where they occur in the
message, in any case. -/
theorem occurs_standard {e : String × String} (he : e ∈ standard.entries)
    (h : Text.trim message.toList ≠ []) :
    occurs e.1 (Chat.normalized message) = occurs e.1 message := by
  obtain ⟨hne, hplain⟩ := isLowered_of_mem (.inr rfl) he
  have hself := Text.lower_eq_self fun c hc => (hplain c hc).1
  refine occurs_normalized (by rwa [hself]) (fun c hc => (hplain c ?_).2) h
  rwa [← hself]

/-- A name of the standard table occurs in a message that has it with its ASCII letters in any case;
so the message is not blank. -/
theorem occurs_of_asciiLower {e : String × String} (he : e ∈ standard.entries)
    (h : Text.occursIn e.1.toList (Text.asciiLower message.toList) = true) :
    occurs e.1 message = true ∧ Text.trim message.toList ≠ [] := by
  obtain ⟨hne, hplain⟩ := isLowered_of_mem (.inr rfl) he
  have hlowered : ∀ c ∈ e.1.toList, Text.isLowered c = true := fun c hc => (hplain c hc).1
  have hself := Text.lower_eq_self hlowered
  have hoccurs : occurs e.1 message = true := by
    rw [occurs, hself, Text.occursIn_iff, ← Text.lower_asciiLower]
    exact Text.infix_lower hlowered (Text.occursIn_iff.1 h)
  refine ⟨hoccurs, trim_ne_nil_of_occurs (by rwa [hself]) (fun c hc => (hplain c ?_).2) hoccurs⟩
  rwa [← hself]

end FixedReplies

namespace Chat

/-! ## What a model says -/

variable {raw text : String}

/-- Nothing is left of what consists of asterisks and blanks only. -/
theorem cleaned?_eq_none_iff :
    cleaned? raw = none ↔ ∀ c ∈ raw.toList, c = '*' ∨ Text.isBlank c = true := by
  rw [cleaned?_none_iff, Text.trim_eq_nil_iff]
  simp only [Text.without, List.mem_filter, bne_iff_ne, and_imp, or_iff_not_imp_left]

/-- What is left has no asterisks and no outer blanks, and nothing more can be taken from it. -/
theorem cleaned?_eq_some (h : cleaned? raw = some text) :
    text = Text.trimmed (String.ofList (Text.without '*' raw.toList)) ∧ text ≠ "" ∧
      '*' ∉ text.toList ∧ Text.trimmed text = text ∧ cleaned? text = some text := by
  have hne : Text.trim (Text.without '*' raw.toList) ≠ [] := by
    rw [Ne, ← cleaned?_none_iff, h]
    exact Option.some_ne_none _
  obtain rfl : String.ofList (Text.trim (Text.without '*' raw.toList)) = text := by
    simpa [cleaned?, hne] using h
  generalize hleft : Text.without '*' raw.toList = left at hne h ⊢
  -- what is left has no star and no blank at its ends, so that cleaning it again changes nothing
  have hstar : '*' ∉ Text.trim left := by
    intro hmem
    have hwithout := Text.mem_of_mem_trim hmem
    rw [← hleft, Text.without, List.mem_filter] at hwithout
    exact absurd hwithout.2 (by decide)
  have hsame : Text.without '*' (Text.trim left) = Text.trim left := by
    refine List.filter_eq_self.2 fun c hc => bne_iff_ne.2 ?_
    rintro rfl
    exact hstar hc
  refine ⟨by rw [Text.trimmed, String.toList_ofList], ?_, by rwa [String.toList_ofList], ?_, ?_⟩
  · simpa using hne
  · rw [Text.trimmed, String.toList_ofList, Text.trim_trim]
  · simp [cleaned?, hsame, Text.trim_trim, hne]

/-! ## Replies -/

/-- A reply that follows from what a model says, if it says anything at all. -/
structure Follows (reply : Reply) (raw? : Option String) : Prop where
  /-- The reply is not a fixed one. -/
  not_fixed : reply.source ≠ .fixed
  /-- The model failed exactly if it says nothing at all. -/
  failure_iff : reply.source = .failure ↔ raw? = none
  /-- The reply is an apology exactly if only asterisks and blanks are said. -/
  apology_iff : reply.source = .apology ↔
    ∃ raw ∈ raw?, ∀ c ∈ raw.toList, c = '*' ∨ Text.isBlank c = true
  /-- The reply is the model's exactly if anything else is said. -/
  model_iff : reply.source = .model ↔
    ∃ raw ∈ raw?, ∃ c ∈ raw.toList, c ≠ '*' ∧ Text.isBlank c = false
  /-- A failure is told as such. -/
  failure_text : reply.source = .failure → reply.text = failureNotice
  /-- An apology is told as such. -/
  apology_text : reply.source = .apology → reply.text = apology
  /-- Otherwise asterisks and then outer blanks are taken away, and the rest cannot be cleaned
  any more. -/
  model_text : reply.source = .model → ∃ raw ∈ raw?,
    reply.text = Text.trimmed (String.ofList (Text.without '*' raw.toList)) ∧ reply.text ≠ "" ∧
      '*' ∉ reply.text.toList ∧ Text.trimmed reply.text = reply.text ∧
      cleaned? reply.text = some reply.text

/-- The reply to an answer follows what the model says. -/
theorem follows_replyOf (answer : Answer) (raw? : Option String) :
    Follows (replyOf answer raw?) raw? := by
  cases raw? with
  | none => constructor <;> simp [replyOf]
  | some raw =>
    cases hcleaned : cleaned? raw with
    | none =>
      -- the model said nothing but stars and blanks
      have hall := cleaned?_eq_none_iff.1 hcleaned
      have hreply : replyOf answer (some raw) = ⟨.apology, apology, some answer⟩ := by
        simp [replyOf, hcleaned]
      rw [hreply]
      constructor <;> simp
      · exact hall
      · exact fun c hc hstar => (hall c hc).resolve_left hstar
    | some text =>
      have hsome : ∃ c ∈ raw.toList, c ≠ '*' ∧ Text.isBlank c = false := by
        have hnot := mt cleaned?_eq_none_iff.2 (hcleaned ▸ Option.some_ne_none _)
        simpa using hnot
      have hreply : replyOf answer (some raw) = ⟨.model, text, some answer⟩ := by
        simp [replyOf, hcleaned]
      rw [hreply]
      constructor <;> simp
      · simpa using hsome
      · simpa using hsome
      · exact cleaned?_eq_some hcleaned

/-- Without a ledger there is an answer, and so there is with one of at most twenty entries or one
in which all amounts are numbers. -/
theorem exists_answerTo? {options : AnswerOptions} {t : Turn}
    (h : ∀ ledger, t.ledger? = some ledger →
      ledger.length ≤ 20 ∨ ∀ e ∈ ledger, e.amount.isNaN = false) :
    ∃ answer, answerTo? options t = some answer := by
  rw [← Option.ne_none_iff_exists']
  intro hnone
  obtain ⟨ledger, hledger, hlong, e, he, hnan⟩ := of_answerTo?_eq_none hnone
  rcases h ledger hledger with hshort | hnumbers
  · exact Nat.not_lt.2 hshort hlong
  · rw [hnumbers e he] at hnan
    exact Bool.noConfusion hnan

/-- With a table that starts empty or as the standard one and has more words added to it, the reply
to a message is fixed exactly if a word occurs in the message as it is heard, all in lowercase. Then
it is the text of the first such word, without an answer. Otherwise, if there is an answer of the
ledger to the message as it is heard, the reply has that answer and follows from what the model says
to its prompt. There is an answer if the ledger cannot be had, and if it has at most twenty entries
or only amounts that are numbers. Words without blanks occur in the message as it is heard where
they occur in the message itself, unless that is blank; so with the standard table a message that
has one of its names, in any case, has a fixed reply, whatever else it says. -/
theorem reply_sources {base : FixedReplies} (hbase : base = .empty ∨ base = .standard)
    (added : List (String × String)) (c : Chat) (hfixed : c.fixed = base.addAll added) (t : Turn)
    (model : String → Option String) :
    let reply? := (c.responded t model).1.1
    let first? := (base.entries ++ added).find? fun e =>
      FixedReplies.occurs e.1 (normalized t.message)
    (∀ reply, reply? = some reply → (reply.source = .fixed ↔ first?.isSome = true)) ∧
    (∀ e, first? = some e → reply? = some ⟨.fixed, e.2, none⟩) ∧
    (first? = none → ∀ answer, answerTo? c.options t = some answer → ∃ reply prompt,
      reply? = some reply ∧ reply.answer? = some answer ∧
        (c.responded t model).2 = [.ledger, .model prompt] ∧ Follows reply (model prompt)) ∧
    ((∀ ledger, t.ledger? = some ledger →
        ledger.length ≤ 20 ∨ ∀ e ∈ ledger, e.amount.isNaN = false) →
      ∃ answer, answerTo? c.options t = some answer) ∧
    (∀ word, Text.trim t.message.toList ≠ [] → Text.lower word.toList ≠ [] →
      (∀ c ∈ Text.lower word.toList, Text.isBlank c = false) →
      FixedReplies.occurs word (normalized t.message) = FixedReplies.occurs word t.message) ∧
    (base = .standard → ∀ e ∈ FixedReplies.standard.entries,
      Text.occursIn e.1.toList (Text.asciiLower t.message.toList) = true →
      ∃ e', FixedReplies.standard.entries.find? (fun e => FixedReplies.occurs e.1 t.message) =
          some e' ∧
        reply? = some ⟨.fixed, e'.2, none⟩) := by
  intro reply? first?
  have hreply? : c.fixed.reply? (normalized t.message) = first?.map (·.2) := by
    rw [hfixed, FixedReplies.reply?_addAll hbase]
  have hsome : ∀ e, first? = some e → reply? = some ⟨.fixed, e.2, none⟩ := by
    intro e he
    rw [he] at hreply?
    show (c.responded t model).1.1 = _
    rw [responded_of_reply model hreply?]
  have hnone : first? = none → ∀ answer, answerTo? c.options t = some answer → ∃ reply prompt,
      reply? = some reply ∧ reply.answer? = some answer ∧
        (c.responded t model).2 = [.ledger, .model prompt] ∧ Follows reply (model prompt) := by
    intro hfirst answer hanswer
    rw [hfirst] at hreply?
    rw [← answer?_eq_answerTo?] at hanswer
    have hresponded := responded_of_some model hreply? hanswer
    simp only [reply?, hresponded]
    exact ⟨_, _, rfl, answer?_replyOf _ _, rfl, follows_replyOf _ _⟩
  refine ⟨?_, hsome, hnone, exists_answerTo?, fun word htrim hne hsolid =>
    FixedReplies.occurs_normalized hne hsolid htrim, ?_⟩
  · intro reply hreply
    cases hfirst : first? with
    | none =>
      cases hanswer : answerTo? c.options t with
      | none =>
        -- no reply comes of a turn that stops
        rw [← answer?_eq_answerTo?] at hanswer
        rw [hfirst] at hreply?
        simp [reply?, responded_of_none model hreply? hanswer] at hreply
      | some answer =>
        obtain ⟨reply', prompt, hreply', -, -, hfollows⟩ := hnone hfirst answer hanswer
        obtain rfl : reply = reply' := Option.some.inj (hreply.symm.trans hreply')
        simp [hfollows.not_fixed]
    | some e =>
      obtain rfl : reply = ⟨.fixed, e.2, none⟩ := Option.some.inj (hreply.symm.trans (hsome e hfirst))
      simp
  · rintro rfl e he hhas
    obtain ⟨hoccurs, htrim⟩ := FixedReplies.occurs_of_asciiLower he hhas
    have hoccursSame : ∀ e ∈ FixedReplies.standard.entries,
        FixedReplies.occurs e.1 (normalized t.message) = FixedReplies.occurs e.1 t.message :=
      fun e he => FixedReplies.occurs_standard he htrim
    have hsame := List.find?_congr hoccursSame
    have hsome' : (FixedReplies.standard.entries.find? fun e =>
        FixedReplies.occurs e.1 t.message).isSome = true := List.find?_isSome.2 ⟨e, he, hoccurs⟩
    obtain ⟨e', he'⟩ := Option.isSome_iff_exists.1 hsome'
    refine ⟨e', he', hsome e' ?_⟩
    -- the names of the standard table stand in front of all words that are added
    simp only [first?]
    rw [List.find?_append, hsame, he', Option.some_or]

/-- A conversation whose table has one word more than the standard one. -/
def salaryChat : Chat :=
  start 1 {} (FixedReplies.standard.addAll [("SALARY", "Ask your employer.")])

/-- A message with a name has the fixed reply of the name, whatever else it says; what a model says
to another message is cleaned. -/
theorem name_comes_first :
    (salaryChat.responded (plainTurn "My salary? Ask RUBESH!") fun _ => none).1.1 =
        some ⟨.fixed, FixedReplies.teammateText, none⟩ ∧
      ∃ reply, (salaryChat.responded (plainTurn "Hello") fun _ => some " **Hi** * ").1.1 =
        some reply ∧ reply.source = .model := by
  have hfixed : salaryChat.fixed =
      FixedReplies.standard.addAll [("SALARY", "Ask your employer.")] := rfl
  constructor
  · obtain ⟨-, hfirst, -⟩ := reply_sources (.inr rfl) _ salaryChat hfixed
      (plainTurn "My salary? Ask RUBESH!") fun _ => none
    refine hfirst ("rubesh", FixedReplies.teammateText) ?_
    decide +kernel
  · obtain ⟨-, -, hnone, -⟩ := reply_sources (.inr rfl) _ salaryChat hfixed (plainTurn "Hello")
      fun _ => some " **Hi** * "
    obtain ⟨reply, prompt, hreply, -, -, hfollows⟩ := hnone (by decide +kernel) _ rfl
    exact ⟨reply, hreply, hfollows.model_iff.2 ⟨_, rfl, 'H', by decide, by decide, by decide⟩⟩

/-- A word that does not occur in a blank message can occur in the one that stands for it. -/
theorem reply_to_blank_message :
    ¬ ∀ (word text : String) (t : Turn) (model : String → Option String),
      ((start 1 {} (FixedReplies.empty.add word text)).responded t model).1.1.map (·.source) =
          some .fixed ↔
        FixedReplies.occurs word t.message = true := by
  intro hall
  have hblank := hall "salary" "Ask your employer." (plainTurn " ") fun _ => none
  exact absurd hblank (by decide +kernel)

end Chat

end AskLedger
