/-!
An open document. Every edit starts a new generation; a reconcile takes a snapshot of the text and may
publish its result only if the generation is still the same.
-/

set_option autoImplicit false

namespace YamlDialects

inductive ReconcileState where
  | clean
  | dirty
  | reconciling
deriving DecidableEq, Inhabited

structure Snapshot where
  generation : Nat
  version : Int
  text : String
deriving DecidableEq, Inhabited

structure Document where
  text : String
  version : Int
  generation : Nat
  state : ReconcileState
deriving DecidableEq, Inhabited

namespace Document

def opened (text : String) (version : Int) : Document :=
  ⟨text, version, 1, .dirty⟩

def update (document : Document) (text : String) (version : Int) : Document :=
  ⟨text, version, document.generation + 1, .dirty⟩

def invalidate (document : Document) : Document :=
  { document with generation := document.generation + 1, state := .dirty }

def begin (document : Document) : Option Snapshot × Document :=
  if document.state = .dirty then
    (some ⟨document.generation, document.version, document.text⟩, { document with state := .reconciling })
  else (none, document)

def finish (document : Document) (generation : Nat) : Bool × Document :=
  if generation = document.generation then (true, { document with state := .clean }) else (false, document)

end Document
end YamlDialects
