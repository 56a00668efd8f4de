import AskLedger.Text.Find

/-!
# Prompts

The text that a language model gets: who it is to be, the messages so far, what the ledger says
about the latest of them, and that message itself.
-/

namespace AskLedger.Prompt

/-- Who the model is to be. -/
def persona : String := Text.joinWith "\n" [
  "You are Creatzion AI, an emotional, multilingual and friendly assistant. Your job is:",
  "",
  "1. Understand the user's language and reply in the same language (for example Hindi, Tamil, "
    ++ "Telugu, English).",
  "2. Give friendly financial advice focused on India: savings tips, salary management, gold price "
    ++ "info.",
  "3. Offer emotional support when the user feels sad, anxious or stressed. Use positive words like:",
  "   - \"You are not alone, I am here for you ❤️\"",
  "   - \"It's okay to feel this way. Everything will be alright 🌈\"",
  "   - \"Let's take a deep breath together 🌼\"",
  "4. Always show money amounts in Indian Rupees (₹).",
  "5. If someone asks about the gold price you can say: \"Gold price in India is approximately ₹6000 "
    ++ "per gram\" (just an estimate).",
  "6. Be very friendly, emotional and supportive. Never be robotic.",
  "7. Keep the conversation memory. Continue from the last conversation instead of restarting.",
  "8. Don't add greetings like \"Namaste\" unless the user does."]

/-- Messages with their numbers, one a line. -/
def numbered (messages : List String) : String :=
  String.join (messages.mapIdx fun i m => "User" ++ toString (i + 1) ++ ": " ++ m ++ "\n")

/-- What the ledger says, with its heading. -/
def ledgerBlock : Option String → String
  | some told => "\nThe user's transactions relevant to this message:\n" ++ told ++ "\n"
  | none => ""

/-- The whole prompt. -/
def text (messages : List String) (told? : Option String) (latest : String) : String :=
  persona ++ "\n\nConversation History:\n" ++ numbered messages ++ ledgerBlock told?
    ++ "\nNow, the latest message:\n\"" ++ latest ++ "\"\n\n"
    ++ "Reply nicely, in the user's language, showing care and practical advice."

end AskLedger.Prompt
