import SnippetCheck.Toml.Reader

/-! The settings of a check, and settings in TOML text. A document sets what it names and leaves the
rest built in; entries that name no setting do not count. -/

namespace SnippetCheck

/-- The settings of a check, with their built-in values. -/
structure Config where
  /-- Where the primary service is; the paths of its operations are put behind. -/
  primaryUrl : String := "http://127.0.0.1:3030"
  /-- Whether the playground is tried where the primary service fails. -/
  fallbackEnabled : Bool := true
  /-- Whether checks are quick that do not say. -/
  quickCheck : Bool := false
  requestTimeoutSecs : Nat := 30
  healthTimeoutSecs : Nat := 2
  playgroundUrl : String := "https://play.rust-lang.org/execute"
  channel : String := "stable"
  edition : String := "2021"
  /-- Whether totals are left out of the diagnostics of a text. -/
  dropSummaryLines : Bool := false
deriving DecidableEq, Repr

namespace Toml

def text? : Toml → Option String
  | .string s => some s
  | _ => none

def flag? : Toml → Option Bool
  | .boolean b => some b
  | _ => none

def natural? : Toml → Option Nat
  | .integer n => if 0 ≤ n then some n.toNat else none
  | _ => none

/-- What a document says of a setting: `default` where it says nothing, and nothing at all where
it says something of the wrong type. -/
def setting? (document : List (String × Toml)) (read? : Toml → Option α) (name : String)
    (default : α) : Option α :=
  match document.lookup name with
  | some v => read? v
  | none => some default

end Toml

open Toml in
/-- The settings that a text writes, unless it is no TOML or a setting has the wrong type. -/
def Config.ofToml? (text : String) : Option Config := do
  let document ← Toml.read? text
  let c : Config := {}
  return {
    primaryUrl := ← setting? document text? "primary_url" c.primaryUrl
    fallbackEnabled := ← setting? document flag? "fallback_enabled" c.fallbackEnabled
    quickCheck := ← setting? document flag? "quick_check" c.quickCheck
    requestTimeoutSecs := ← setting? document natural? "request_timeout_secs" c.requestTimeoutSecs
    healthTimeoutSecs := ← setting? document natural? "health_timeout_secs" c.healthTimeoutSecs
    playgroundUrl := ← setting? document text? "playground_url" c.playgroundUrl
    channel := ← setting? document text? "channel" c.channel
    edition := ← setting? document text? "edition" c.edition
    dropSummaryLines := ← setting? document flag? "drop_summary_lines" c.dropSummaryLines }

end SnippetCheck
