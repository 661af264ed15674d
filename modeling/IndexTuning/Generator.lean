import IndexTuning.Error

namespace IndexTuning

structure Generator (m : Type → Type) where
  generate : String → ExceptT AdvisorError m String

structure CannedAnswers where
  answer : Option String := none
  prompts : List String := []

def CannedAnswers.generate (g : CannedAnswers) (prompt : String) :
    Except AdvisorError String × CannedAnswers :=
  (match g.answer with
    | some text => .ok text
    | none => .error (.generation "no response available"),
    { g with prompts := g.prompts ++ [prompt] })

end IndexTuning
