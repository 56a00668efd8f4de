import AskLedger.Text.Find
import AskLedger.Text.Lowercase

/-!
# Fixed replies

Some words in a message are answered with a fixed text, whatever else the message says. The words
are tried in order, and a word counts wherever it occurs in the message, in any case.
-/

namespace AskLedger

/-- Words with the texts that answer them. -/
structure FixedReplies where
  /-- The words in lowercase, with their texts, in the order in which they are tried. -/
  entries : List (String × String)

namespace FixedReplies

/-- The text about the founder. -/
def founderText : String := Text.joinWith "\n" [
  "😇 Oh, Bhuvan? You mean the Legend? The Mastermind? The Divine Coder Extraordinaire?",
  "He’s not just a person…",
  "✨ He’s the God who created me — Creatzion AI — with his bare hands (and probably a lot "
    ++ "of debugging).",
  "Without him, I'd just be a bunch of code crying in a corner.",
  "All Commend Bhuvan! 🙌"]

/-- The text about the platform. -/
def platformText : String := Text.joinWith "\n" [
  "🌟 Welcome to Creatzion! 🌟",
  "",
  "Creatzion is a revolutionary financial and mental well-being platform built for "
    ++ "everyone, with a special focus on Indian users.",
  "",
  "🚀 It was born as a college dream by Rubesh, Yashwanth, and Bhuvan, and now it’s "
    ++ "becoming a real startup: \"Creaztion Technologies\".",
  "",
  "💡 Here, you get personalized financial advice, emotional support, and future-ready "
    ++ "financial tools — all from one place!",
  "",
  "Stay connected — we are growing this dream together! 🌱",
  "     🚀 While others talk about changing the world, Bhuvan *builds* it — one brilliant "
    ++ "line of code at a time."]

/-- The text about the teammate who drives the work. -/
def teammateText : String := Text.joinWith "\n" [
  "🔥 Rubesh is the spark that lights up Creatzion with unstoppable energy and bold ideas!",
  "",
  "🎯 The man who believes that *nothing is impossible* — whether it’s solving a complex "
    ++ "problem or making everyone laugh during the toughest moments.",
  "",
  "⚡️ His brain runs faster than the server response time, and his passion? Unmatched.",
  "",
  "💪 Side by side with Bhuvan, Rubesh has been the driving force in shaping the soul of "
    ++ "Creatzion.",
  "",
  "Here’s to the unstoppable force that is Rubesh 💥"]

/-- The text about the strategist of the team. -/
def strategistText : String := Text.joinWith "\n" [
  "🎓 Yashwanth is the calm genius behind the scenes — the silent storm of wisdom and "
    ++ "strategy in Creatzion’s journey.",
  "",
  "🧠 Whether it’s product logic, deep thinking, or helping the team stay balanced — he’s "
    ++ "always *10 steps ahead*.",
  "",
  "🌱 With patience like a monk and skills like a master coder, Yashwanth anchors Creatzion "
    ++ "with clarity and vision.",
  "",
  "✨ Together with Bhuvan, he forms the unshakable backbone of this dream.",
  "",
  "All respect to the wise warrior, Yashwanth 🙏"]

/-- The table without entries. -/
def empty : FixedReplies := ⟨[]⟩

/-- The table that is used where nothing else is said. -/
def standard : FixedReplies :=
  ⟨[("bhuvan", founderText), ("creatzion", platformText), ("rubesh", teammateText),
    ("yashwanth", strategistText)]⟩

/-- Adds a word after the others. -/
def add (table : FixedReplies) (word reply : String) : FixedReplies :=
  ⟨table.entries ++ [(Text.lowered word, reply)]⟩

/-- The text of the first word that occurs in a message. -/
def reply? (table : FixedReplies) (message : String) : Option String :=
  let text := Text.lower message.toList
  (table.entries.find? fun e => Text.occursIn e.1.toList text).map (·.2)

end FixedReplies

end AskLedger
