import DocFilter.Text.LowerCase

/-! # Settings of the log

How much is logged and in which format, looked up as named texts.  The texts count in letters of any
case; one that means nothing leaves the default. -/

namespace DocFilter.Logging

def debugVariable : String := "QUARRY_DEBUG"

def levelVariable : String := "QUARRY_LOG_LEVEL"

def formatVariable : String := "QUARRY_LOG_FORMAT"

inductive Level where
  | trace | debug | info | warn | error
deriving DecidableEq, Repr

inductive Format where
  | json | pretty | compact
deriving DecidableEq, Repr

def Level.all : List Level := [.trace, .debug, .info, .warn, .error]

def Level.name : Level → String
  | trace => "trace"
  | debug => "debug"
  | info => "info"
  | warn => "warn"
  | error => "error"

def Format.all : List Format := [.json, .pretty, .compact]

def Format.name : Format → String
  | json => "json"
  | pretty => "pretty"
  | compact => "compact"

/-- Whether the debug switch is set. -/
def debugEnabled (lookup : String → Option String) : Bool :=
  match lookup debugVariable with
  | some s => ["true", "1", "yes"].contains (Text.lowerCase s)
  | none => false

/-- The level that is named, or else that of the debug switch. -/
def level (lookup : String → Option String) : Level :=
  let named := (lookup levelVariable).bind fun s =>
    Level.all.find? fun l => l.name == Text.lowerCase s
  named.getD (if debugEnabled lookup then .debug else .warn)

def format (lookup : String → Option String) : Format :=
  let named := (lookup formatVariable).bind fun s =>
    Format.all.find? fun f => f.name == Text.lowerCase s
  named.getD .json

end DocFilter.Logging
