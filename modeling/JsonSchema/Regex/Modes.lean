import JsonSchema.Regex.Expr

set_option autoImplicit false

/-! The flags that change what an expression matches. -/

namespace JsonSchema.Regex

structure Modes where
  caseInsensitive : Bool
  multiLine : Bool
  dotMatchesNewLine : Bool
  swapGreed : Bool
  unicode : Bool
  carriageReturn : Bool

namespace Modes

def initial : Modes := ⟨false, false, false, false, true, false⟩

/-- The verbose flag is a matter of reading alone. -/
def set (modes : Modes) (flag : Flag) (on : Bool) : Modes :=
  match flag with
  | .caseInsensitive => { modes with caseInsensitive := on }
  | .multiLine => { modes with multiLine := on }
  | .dotMatchesNewLine => { modes with dotMatchesNewLine := on }
  | .swapGreed => { modes with swapGreed := on }
  | .unicode => { modes with unicode := on }
  | .carriageReturn => { modes with carriageReturn := on }
  | .verbose => modes

def change (modes : Modes) (changes : FlagChanges) : Modes :=
  changes.foldl (fun modes change => modes.set change.1 change.2) modes

end Modes

end JsonSchema.Regex
