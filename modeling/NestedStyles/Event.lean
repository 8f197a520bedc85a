/-!
# Logged events

What compiling, rendering and the registry report while they work, and the
values that carry such reports along. Texts stand in a log line between quotation
marks, with the marks, the backslash and control characters written behind a
backslash.
-/

namespace NestedStyles

namespace Text

/-- The control characters of ASCII and Latin-1. -/
def isControl (c : Char) : Bool :=
  c.toNat < 0x20 || (0x7f ≤ c.toNat && c.toNat < 0xa0)

/-- How a character is written between quotation marks. A control character without a
short form is written by its code point. All other characters stand as they are, also
those that are hard to see in a log: separators, format characters, combining marks and
unassigned code points. -/
def escape : Char → List Char
  | '"' => ['\\', '"']
  | '\\' => ['\\', '\\']
  | '\n' => ['\\', 'n']
  | '\r' => ['\\', 'r']
  | '\t' => ['\\', 't']
  | '\x00' => ['\\', '0']
  | c => if isControl c then ['\\', 'u', '{'] ++ Nat.toDigits 16 c.toNat ++ ['}'] else [c]

/-- A text between quotation marks. -/
def quoted (text : String) : String :=
  String.ofList ('"' :: text.toList.flatMap escape ++ ['"'])

/-- Quoted texts between brackets. -/
def quotedList (texts : List String) : String :=
  "[" ++ ", ".intercalate (texts.map quoted) ++ "]"

end Text

/-- Something worth a line in the log. -/
inductive Event where
  /-- A ruleset was compiled, after the rulesets nested in it. -/
  | rulesetCompiled (selectors : List String) (declarations nested : Nat)
  /-- A whole stylesheet was compiled. -/
  | programCompiled (bindings rulesets : Nat)
  /-- A first rendering begins. -/
  | instantiated (rulesets bindings : Nat)
  /-- A rule went into a sheet. -/
  | ruleInserted (index : Nat) (selector : String)
  /-- A rendering over an earlier one begins. -/
  | rerendered (overrides : Nat)
  /-- A sheet was given up. -/
  | disposed (rules : Nat)
  /-- A live sheet entered a registry. -/
  | registered (id live : Nat)
  /-- A live sheet left a registry. -/
  | unregistered (id live : Nat)
deriving DecidableEq

/-- How fine an event is. -/
inductive Level where
  | debug
  | trace
deriving DecidableEq

namespace Level

/-- The name of the level in log lines. -/
def name : Level → String
  | debug => "DEBUG"
  | trace => "TRACE"

end Level

namespace Event

/-- The level at which an event is logged: single rulesets and rules are finer
than what happens to a whole stylesheet. -/
def level : Event → Level
  | rulesetCompiled .. => .trace
  | ruleInserted .. => .trace
  | _ => .debug

/-- The text of an event. -/
def message : Event → String
  | rulesetCompiled selectors declarations nested =>
      let group := Text.quotedList selectors
      s!"COMPILE: ruleset {group} -> {declarations} declaration(s), {nested} nested"
  | programCompiled bindings rulesets =>
      s!"COMPILE: {bindings} variable(s), {rulesets} top-level unit(s)"
  | instantiated rulesets bindings =>
      s!"RUNTIME: instantiate with {rulesets} unit(s), {bindings} variable(s)"
  | ruleInserted index selector => s!"RUNTIME: rule #{index} `{selector}`"
  | rerendered overrides => s!"RUNTIME: re-render with {overrides} override(s)"
  | disposed rules => s!"RUNTIME: dispose, clearing {rules} rule(s)"
  | registered id live => s!"REGISTRY: registered InstanceId({id}) ({live} live)"
  | unregistered id live => s!"REGISTRY: unregistered InstanceId({id}) ({live} live)"

/-- The log line of an event. -/
def line (event : Event) : String :=
  event.level.name ++ " " ++ event.message

end Event

/-- A value with the events reported on the way to it. -/
@[ext]
structure Logged (α : Type) where
  value : α
  events : List Event

namespace Logged

instance : Monad Logged where
  pure value := ⟨value, []⟩
  bind first next :=
    let second := next first.value
    ⟨second.value, first.events ++ second.events⟩

/-- Reports an event. -/
def report (event : Event) : Logged Unit := ⟨(), [event]⟩

@[simp] theorem value_pure {α : Type} (value : α) : (pure value : Logged α).value = value := rfl

@[simp] theorem events_pure {α : Type} (value : α) : (pure value : Logged α).events = [] := rfl

@[simp] theorem value_bind {α β : Type} (first : Logged α) (next : α → Logged β) :
    (first >>= next).value = (next first.value).value := rfl

@[simp] theorem events_bind {α β : Type} (first : Logged α) (next : α → Logged β) :
    (first >>= next).events = first.events ++ (next first.value).events := rfl

instance : LawfulMonad Logged :=
  LawfulMonad.mk' Logged
    (fun logged => Logged.ext rfl (List.append_nil logged.events))
    (fun _ _ => Logged.ext rfl rfl)
    (fun first next last =>
      Logged.ext rfl (List.append_assoc first.events (next first.value).events
        (last (next first.value).value).events))

end Logged

end NestedStyles
