import YamlDialects.Catalog
import YamlDialects.IndexCache.MetadataFile
import YamlDialects.Server.Address
import YamlDialects.Server.Document

/-!
Open documents and the work on them. A handler is a list of works that are done one after the other, and
several handlers may take turns between two works. A validation takes a snapshot of a document, computes
the diagnostics of the snapshot, and publishes them if the document has not changed meanwhile; otherwise it
starts again.
-/

set_option autoImplicit false

namespace YamlDialects

structure Surroundings where
  files : Files
  now : Nat
  read : Yaml.TextReader := Yaml.readText

structure Publication where
  address : Address
  diagnostics : List Diagnostic
  version : Option Int

structure ProjectIndex where
  file : String
  cache : IndexCache

structure Workspace where
  documents : List (Address × Document) := []
  catalog : Catalog
  index : Option ProjectIndex := none

inductive Work where
  | insert (address : Address) (text : String) (version : Int)
  | change (address : Address) (text : String) (version : Int)
  | remove (address : Address)
  | validate (address : Address)
  | begin (address : Address)
  | compute (address : Address) (snapshot : Snapshot)
  | finish (address : Address) (snapshot : Snapshot) (diagnostics : List Diagnostic)
  | publish (publication : Publication)
  | reload
  | invalidate

abbrev Handler := List Work

namespace Handler

def opened (address : Address) (text : String) (version : Int) : Handler :=
  [.insert address text version, .validate address]

def changed (address : Address) (text : String) (version : Int) : Handler :=
  [.change address text version, .validate address]

def closed (address : Address) : Handler :=
  [.remove address, .publish ⟨address, [], none⟩]

def saved : Handler :=
  [.reload]

end Handler

namespace Workspace

def ofSettings (files : Files) (settings : Settings) : Workspace :=
  { catalog := Catalog.load files settings
    index := settings.propertyMetadata.map fun file =>
      ⟨file, { idleTime := 1000 * settings.indexIdleSeconds }⟩ }

def document? (workspace : Workspace) (address : Address) : Option Document :=
  (workspace.documents.find? (·.1 == address)).map (·.2)

def erase (workspace : Workspace) (address : Address) : Workspace :=
  { workspace with documents := workspace.documents.filter (·.1 != address) }

def insert (workspace : Workspace) (address : Address) (document : Document) : Workspace :=
  { workspace with documents := (workspace.erase address).documents ++ [(address, document)] }

def update (workspace : Workspace) (address : Address) (document : Document) : Workspace :=
  { workspace with
    documents := workspace.documents.map fun each => if each.1 == address then (address, document) else each }

def invalidateAll (workspace : Workspace) : Workspace :=
  { workspace with documents := workspace.documents.map fun (address, document) => (address, document.invalidate) }

def build (workspace : Workspace) (surroundings : Surroundings) (anew : Bool) : Bool × Workspace :=
  match workspace.index with
  | none => (false, workspace)
  | some index =>
      let (result, cache, _) :=
        IndexBuild.run (MetadataFile.builder surroundings.files) surroundings.now ⟨index.file, anew, false⟩ index.cache ()
      let built := match result with
        | some (.ok _) => true
        | _ => false
      (built, { workspace with index := some { index with cache } })

def ensureIndex (workspace : Workspace) (surroundings : Surroundings) : Workspace :=
  (workspace.build surroundings false).2

def snapshot (workspace : Workspace) (now : Nat) : Option PropertyIndex × Workspace :=
  match workspace.index with
  | none => (none, workspace)
  | some index =>
      let (found, cache) := index.cache.get now index.file
      (found, { workspace with index := some { index with cache } })

def evict (workspace : Workspace) (now : Nat) : Workspace :=
  { workspace with index := workspace.index.map fun index => { index with cache := index.cache.evict now } }

def assistant? (workspace : Workspace) (address : Address) : Option Assistant :=
  workspace.catalog.assistant? address.render

def diagnose (workspace : Workspace) (read : Yaml.TextReader) (now : Nat) (address : Address) (text : String) :
    List Diagnostic × Workspace :=
  match workspace.assistant? address with
  | none => ([], workspace)
  | some assistant =>
      let (index, workspace) := workspace.snapshot now
      (Diagnostic.ofProblems text (assistant.problems index text read), workspace)

def perform (surroundings : Surroundings) (workspace : Workspace) :
    Work → Handler × Option Publication × Workspace
  | .insert address text version => ([], none, workspace.insert address (Document.opened text version))
  | .change address text version =>
      match workspace.document? address with
      | some document => ([], none, workspace.update address (document.update text version))
      | none => ([], none, workspace.insert address (Document.opened text version))
  | .remove address => ([], none, workspace.erase address)
  | .validate address => ([.begin address], none, workspace.ensureIndex surroundings)
  | .begin address =>
      match (workspace.document? address).map Document.begin with
      | some (some snapshot, document) => ([.compute address snapshot], none, workspace.update address document)
      | _ => ([], none, workspace)
  | .compute address snapshot =>
      let (diagnostics, workspace) :=
        workspace.diagnose surroundings.read surroundings.now address snapshot.text
      ([.finish address snapshot diagnostics], none, workspace)
  | .finish address snapshot diagnostics =>
      match (workspace.document? address).map (Document.finish · snapshot.generation) with
      | some (true, document) =>
          ([.publish ⟨address, diagnostics, some snapshot.version⟩], none, workspace.update address document)
      | _ => ([.begin address], none, workspace)
  | .publish publication => ([], some publication, workspace)
  | .reload =>
      let (built, workspace) := workspace.build surroundings true
      (if built then [.invalidate] else [], none, workspace)
  | .invalidate => (workspace.documents.map fun each => .validate each.1, none, workspace.invalidateAll)

def runFor (surroundings : Surroundings) : Nat → Handler → Workspace → List Publication × Workspace
  | 0, _, workspace => ([], workspace)
  | _ + 1, [], workspace => ([], workspace)
  | count + 1, work :: rest, workspace =>
      let (next, published, workspace) := workspace.perform surroundings work
      let (publications, workspace) := runFor surroundings count (next ++ rest) workspace
      (published.toList ++ publications, workspace)

/-- Runs one handler to its end. On its own a validation never starts again, so each document needs five
works, and a handler three more. -/
def run (surroundings : Surroundings) (handler : Handler) (workspace : Workspace) :
    List Publication × Workspace :=
  workspace.runFor surroundings (5 * (workspace.documents.length + 1) + 3) handler

end Workspace
end YamlDialects
