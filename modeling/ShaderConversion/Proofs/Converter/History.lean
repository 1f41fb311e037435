import ShaderConversion.Proofs.Converter.Reachable

namespace ShaderConversion

-- A call and all that it depends on besides the converter. A compiler may remember what it
-- was asked, so that of the next turn may answer otherwise.
structure Turn (F : Type) where
  live : Bool
  files : F
  compiler : Compiler
  call : Call

structure Exchange (F : Type) where
  before : Converter
  turn : Turn F

variable {F : Type} [FileAccess F]

namespace Exchange

def outcome (e : Exchange F) : Outcome Answer :=
  ({ e.before with compiler := e.turn.compiler }.perform e.turn.live e.turn.files e.turn.call).1

def answer (e : Exchange F) : Answer := e.outcome.answer

def after (e : Exchange F) : Converter := e.outcome.converter

def Succeeds (e : Exchange F) : Prop := e.answer = .configured (.ok ())

theorem after_settings (e : Exchange F) :
    e.after.settings = e.before.settings.after (e.turn.call.change e.before.settings) :=
  Converter.perform_settings _ _ _ _

end Exchange

namespace Converter

def take (c : Converter) (turn : Turn F) : Converter := (Exchange.mk c turn).after

def takeAll (c : Converter) (turns : List (Turn F)) : Converter := turns.foldl take c

def history (c : Converter) : List (Turn F) → List (Exchange F)
  | [] => []
  | turn :: turns => ⟨c, turn⟩ :: (c.take turn).history turns

def log (c : Converter) (turns : List (Turn F)) : List Event :=
  (c.history turns).flatMap fun e => e.outcome.events

theorem takeAll_cons (c : Converter) (turn : Turn F) (turns : List (Turn F)) :
    c.takeAll (turn :: turns) = (c.take turn).takeAll turns := rfl

theorem history_cons (c : Converter) (turn : Turn F) (turns : List (Turn F)) :
    c.history (turn :: turns) = ⟨c, turn⟩ :: (c.take turn).history turns := rfl

theorem log_cons (c : Converter) (turn : Turn F) (turns : List (Turn F)) :
    c.log (turn :: turns) = (Exchange.mk c turn).outcome.events ++ (c.take turn).log turns := rfl

end Converter

end ShaderConversion
