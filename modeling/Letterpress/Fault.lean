/-!
# Faults

What can go wrong while an expression is evaluated or a value is converted. A fault is a cause; the text
that a reader sees is given by `Fault.message?`.

* `Fault.message?`: the text of a fault that explains itself; the others name a kind of misuse only.
-/

namespace Letterpress

inductive Fault where
  /-- a value of the wrong kind, or the wrong number of arguments -/
  | wrongType
  /-- a value lacks what is asked of it -/
  | noAttribute
  /-- a value of the right kind that cannot be used -/
  | badValue
  /-- a number too large for what is done with it -/
  | overflow
  /-- a decimal result that needs more digits than there are -/
  | imprecise
  | divisionByZero (text : String)
  | noKey (quoted : String)
  /-- text that cannot be read as bytes of its encoding -/
  | badEncoding
  /-- a refusal of the operating system -/
  | system (code : Nat) (text : String)
  /-- use of a value that was never defined -/
  | undefined (text : String)
  /-- a template that does not follow the grammar -/
  | syntaxError (text : String)
  /-- a template that names a filter or a test that does not exist -/
  | unknownName (text : String)
  /-- the use of a filter or a test that does not exist -/
  | missingName (text : String)
  /-- a filter used in a way that it does not allow -/
  | filterMisuse (text : String)
  | notJson (text : String)
  /-- a declaration in hypertext that cannot be read -/
  | badDeclaration
  /-- a picture of no known kind -/
  | unknownPicture
  /-- a value that no entry of a printed file can keep -/
  | notAnEntry (shown : String)
  /-- a failure of a collaborator, with its kind and its own text -/
  | foreign (kind text : String)
  deriving DecidableEq, Repr, Inhabited

namespace Fault

def message? : Fault → Option String
  | divisionByZero t => some t
  | noKey t => some t
  | system code t => some s!"[Errno {code}] {t}"
  | undefined t => some t
  | syntaxError t => some t
  | unknownName t => some t
  | missingName t => some t
  | filterMisuse t => some t
  | notJson t => some t
  | notAnEntry t => some s!"don't know how to encode value {t}"
  | foreign _ t => some t
  | wrongType | noAttribute | badValue | overflow | imprecise | badEncoding | badDeclaration | unknownPicture => none

/-- Whether a fault is a refusal of the operating system. -/
def isSystem : Fault → Bool
  | system _ _ => true
  | _ => false

end Fault

end Letterpress
