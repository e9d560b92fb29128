import Typestate.Log.Formatter
import Typestate.Settings

/-! # Setting up the log

* `Log`: the level of the log, its handlers, and whether records are passed on to the logs around.
* `Log.configure`: a log with one handler. A level that is none is only found out when the old
  handlers are gone already.
* `Log.output`: what a run with events leaves in the log. -/

namespace Typestate

/-- A destination of records. -/
structure Handler where
  level : Level
  formatter : Formatter

/-- The log of the library. -/
structure Log where
  level : Level := .number 0
  handlers : List Handler := []
  isPassedOn : Bool := true

/-- A request for a log. -/
structure LogRequest where
  level : Data := .int Level.warning
  asJson : Bool := false
  showsPlace : Bool := false

/-- The formatter of a request. -/
def LogRequest.formatter (r : LogRequest) : Formatter :=
  if r.asJson then .structured r.showsPlace [] else .readable false

namespace Log

/-- The name of the log. -/
def name : String := "stategen"

/-- The layout of lines that has the name of a level. -/
def basicFormat : String := "%(levelname)s:%(name)s:%(message)s"

/-- The table of layouts that has the name of a level. -/
def layoutTable : String :=
  "\x7b'%': (<class 'logging.PercentStyle'>, '" ++ basicFormat ++
    "'), '\x7b': (<class 'logging.StrFormatStyle'>, " ++
    "'\x7blevelname\x7d:\x7bname\x7d:\x7bmessage\x7d'), " ++
    "'$': (<class 'logging.StringTemplateStyle'>, " ++
    "'$\x7blevelname\x7d:$\x7bname\x7d:$\x7bmessage\x7d')\x7d"

/-- The level that a word stands for, in any case. Two words stand for something that is no level;
all other unknown ones stand for warnings. -/
def levelOfText (s : String) : Except Failure Int :=
  let word := Text.upper s
  if word == "BASIC_FORMAT" then .error (.refused (.unknownLevel basicFormat))
  else if word == "_STYLES" then .error (.mismatch (.notLevel layoutTable))
  else .ok ((Level.ofName? word).getD Level.warning)

/-- The level of a request. A text with halves of surrogate pairs is an unknown word. -/
def levelOf : Data → Except Failure Level
  | .int i => .ok (.number i)
  | .bool b => .ok (.flag b)
  | .text s => .number <$> levelOfText s
  | .halved _ => .ok (.number Level.warning)
  | d => .error (.mismatch (.notLevel d.literal))

/-- **The log after a request, and what went wrong.** -/
def configure (log : Log) (r : LogRequest) : Log × Except Failure Unit :=
  match levelOf r.level with
  | .ok level => ({ level, handlers := [⟨level, r.formatter⟩], isPassedOn := false }, .ok ())
  | .error e => ({ log with handlers := [], isPassedOn := false }, .error e)

/-- The request that the settings make. -/
def requestOf (s : Settings) : LogRequest := { level := .text s.logLevel, asJson := s.logJson }

/-- The level from which on records are taken; a log without a level goes by the logs around. -/
def effectiveLevel (log : Log) : Int :=
  if log.level.value = 0 then Level.warning else log.level.value

/-- The log takes the record, and the handler too. -/
def takes (log : Log) (h : Handler) (r : Record) : Bool :=
  log.effectiveLevel ≤ r.rank && h.level.value ≤ r.rank

/-- What a handler writes for records. -/
def written (log : Log) (time : String) (h : Handler) (records : List Record) :
    Except Failure (List String) :=
  (records.filter (log.takes h)).mapM (h.formatter.write time)

/-- What events leave in the log; every record ends its line. -/
def output (log : Log) (time : String) (events : List Event) : Except Failure String := do
  let texts ← log.handlers.mapM fun h => log.written time h (events.map Record.ofEvent)
  .ok (String.join (texts.flatten.map (· ++ "\n")))

/-- **A request that names a level leaves one handler.** -/
theorem configure_of_level {r : LogRequest} {level : Level} (h : levelOf r.level = .ok level)
    (log : Log) :
    (configure log r).1.handlers.length = 1 ∧ (configure log r).1.isPassedOn = false ∧
      (configure log r).1.level = level := by
  simp [configure, h]

end Log
end Typestate
