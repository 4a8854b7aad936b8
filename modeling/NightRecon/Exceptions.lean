import NightRecon.Lib.Checks
import NightRecon.Lib.Text

/-!
# Exceptions

The exceptions the modelled functions raise: a class and a message.  `Py α` is a call that
returns an `α` or raises.  The repository's own classes that derive from `ValueError` are told
apart by `ExnClass.isValueError`.
-/

namespace NightRecon

open NightRecon.Lib.Text

inductive ExnClass where
  | valueError
  | typeError
  | keyError
  | indexError
  | overflowError
  | assertionError
  | attributeError
  | permissionError
  | osError
  | integrityError
  | policyCompilationError
  | approvalWorkflowError
  | auditTrailError
  | evidenceCustodyError
  | evidenceConflictError
  | metadataConflictError
  | rejected
  | validationFailed
  | adapterError
  | persistenceExecutionError
  | eofError
  | keyboardInterrupt
  | httpException
  | structError
  | recursionError
  | lookupError
  | unicodeError
  | cookieError
  deriving DecidableEq

/-- The classes an `except ValueError` clause catches. -/
def ExnClass.isValueError : ExnClass → Bool
  | .valueError | .policyCompilationError | .approvalWorkflowError | .auditTrailError
  | .evidenceCustodyError | .evidenceConflictError | .metadataConflictError | .rejected
  | .validationFailed | .unicodeError => true
  | _ => false

structure Exn where
  cls : ExnClass
  message : String
  deriving DecidableEq

/-- An exception an `except ValueError` clause catches. -/
def Exn.IsValueError (e : Exn) : Prop := e.cls.isValueError = true

instance (e : Exn) : Decidable e.IsValueError := inferInstanceAs (Decidable (_ = true))

/-- A call that returns or raises. -/
abbrev Py := Except Exn

def valueError (message : String) : Exn := ⟨.valueError, message⟩

theorem isValueError_valueError (message : String) : (valueError message).IsValueError := rfl

def typeError (message : String) : Exn := ⟨.typeError, message⟩

def permissionError (message : String) : Exn := ⟨.permissionError, message⟩

def keyError (message : String) : Exn := ⟨.keyError, message⟩

/-- `_required_text` of the shared-core modules. -/
def requireText (value field : String) : Py String :=
  if requiredText value then .ok value
  else .error (valueError (field ++ " must be a nonblank, trimmed string"))

theorem requireText_eq_ok {value field s : String} :
    requireText value field = .ok s ↔ requiredText value ∧ value = s := by
  unfold requireText
  split <;> simp_all

end NightRecon
