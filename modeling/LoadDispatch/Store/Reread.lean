import LoadDispatch.Wire.Verdict
import LoadDispatch.Json.Reader
import LoadDispatch.Json.Writer

/-!
A value kept in a JSON column is read back with the default number reader, which may land on a
neighbour of a double written with its shortest digits. Writers store `decode (parse (render v))`,
the value a later read sees.
-/

namespace LoadDispatch

/-- The value a JSON column yields after `v` was written to it; `v` itself should the text not
decode, which does not happen for values written by their own encoder. -/
def reread {α : Type} (toJson : α → Json) (decode : Decoder α) (v : α) : α :=
  match Json.parse (toJson v).render with
  | .ok j => match decode j with
    | .ok w => w
    | .error _ => v
  | .error _ => v

def Indicator.reread (i : Indicator) : Indicator :=
  LoadDispatch.reread Indicator.toJson Indicator.decode i

def SampleSummary.reread (s : SampleSummary) : SampleSummary :=
  LoadDispatch.reread SampleSummary.toJson SampleSummary.decode s

def UsageSummary.reread (u : UsageSummary) : UsageSummary :=
  LoadDispatch.reread UsageSummary.toJson UsageSummary.decode u

end LoadDispatch
