import Grounding.Failure
import Grounding.Text.Lowercase

/-! Colours of a terminal, and the messages of the command line that use them. -/

namespace Grounding

inductive Ink
  | red
  | yellow
  | cyan
  | boldRed
  | boldGreen
  | boldYellow

/-- The parameters of the escape sequence that switches an ink on. -/
def Ink.parameters : Ink → String
  | red => "31"
  | yellow => "33"
  | cyan => "36"
  | boldRed => "1;31"
  | boldGreen => "1;32"
  | boldYellow => "1;33"

structure Palette where
  colored : Bool

namespace Palette

/-- Colours are used always, never, or else on a terminal. -/
def ofMode (mode : String) (terminal : Bool) : Palette :=
  match Text.lowercase mode with
  | "always" => ⟨true⟩
  | "never" => ⟨false⟩
  | _ => ⟨terminal⟩

/-- A text in an ink. Where the text itself switches all inks off, this one is switched on again. -/
def paint (p : Palette) (ink : Ink) (text : String) : String :=
  if p.colored then
    let on := "\x1b[" ++ ink.parameters ++ "m"
    let off := "\x1b[0m"
    on ++ text.replace off (off ++ on) ++ off
  else text

def warning (p : Palette) (text : String) : String :=
  p.paint .boldYellow "Warning:" ++ " " ++ text

def success (p : Palette) (text : String) : String :=
  p.paint .boldGreen "Success:" ++ " " ++ text

def position (p : Palette) (text : String) : String :=
  p.paint .cyan text

/-- A failure as the command line reports it. A report has its code, its position and what helps,
and the outermost note follows on a line of its own. -/
def failure (p : Palette) (f : Failure) : String :=
  match f.cause with
  | .plain _ => p.paint .boldRed "Error:" ++ " " ++ f.message
  | .report r =>
    let d := r.toDiagnostic
    let place :=
      match d.path with
      | some path => s!" (at {p.position path.display})"
      | none => ""
    let help :=
      match d.effectiveHelp? with
      | some help => "\n  " ++ p.paint .cyan "help:" ++ " " ++ help
      | none => ""
    let note :=
      if f.headline = r.display then ""
      else "\n  " ++ p.paint .cyan "note:" ++ " " ++ f.headline
    p.paint .boldRed "Error:" ++ " " ++ p.paint .yellow d.code.display ++ " - " ++ d.message ++
      place ++ help ++ note

end Palette

end Grounding
