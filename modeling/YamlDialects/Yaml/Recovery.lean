import YamlDialects.Outline.Block
import YamlDialects.Yaml.Compose
import YamlDialects.Yaml.Event.Reader

/-!
Recovery from faults. When a text cannot be read, the smallest block of its outline whose removal
helps is blanked out, and reading is tried again. Blanking keeps every byte offset.

Nothing here depends on how a text is read: the reader is a parameter.
-/

set_option autoImplicit false

namespace YamlDialects.Yaml

/-- Why a text could not be read: a cause, its byte offset, and the start of the innermost collection
that was open there. -/
structure Failure where
  offset : Nat
  cause : Cause
  openStart : Option Nat
deriving DecidableEq, Inhabited

abbrev TextReader := List Char → Except Failure (List LocatedEvent)

def openStarts (chars : List Char) (events : List LocatedEvent) : List Nat :=
  events.foldl (fun starts event =>
    match event.event with
    | .sequenceStart _ => byteOf chars event.span.start.index :: starts
    | .mappingStart _ => byteOf chars event.span.start.index :: starts
    | .sequenceEnd => starts.tail
    | .mappingEnd => starts.tail
    | _ => starts) []

def readText : TextReader := fun chars =>
  match readEvents chars with
  | (events, none) => .ok events
  | (events, some fault) =>
      .error ⟨byteOf chars fault.mark.index, fault.cause, (openStarts chars events).head?⟩

structure SyntaxError where
  message : String
  region : Region
deriving DecidableEq, Inhabited

structure Damage where
  region : Region
  block : Nat
  parentPath : Path
  key : Option (String × Region)
deriving DecidableEq, Inhabited

namespace Damage

def ofBlock (block : Block) (region : Region) : Damage :=
  ⟨region, block.id, (block.parent?.map Block.path).getD [],
    block.key?.bind fun key => block.keyRegion?.map (key, ·)⟩

end Damage

def blankFrom (region : Region) : Nat → List Char → List Char
  | _, [] => []
  | offset, c :: rest =>
      let shown := if region.contains offset && !isBreak c then List.replicate c.utf8Size ' ' else [c]
      shown ++ blankFrom region (offset + c.utf8Size) rest

def blank (region : Region) (chars : List Char) : List Char :=
  blankFrom region 0 chars

def blankRegion (block : Block) : Region :=
  match block.kind with
  | .document => ⟨min block.stop block.treeStop, block.treeStop⟩
  | _ => block.treeRegion

def stepBlock? (block : Block) : Option Block :=
  (block.ancestry.reverse.takeWhile fun above => above.kind != .document && above.kind != .root).find?
    (·.kind.isStep)

def stepAncestors (block : Block) : List Block :=
  block.ancestry.reverse.tail.filter (·.kind.isStep)

def distinctBlocks (blocks : List Block) : List Block :=
  blocks.foldl (fun found block => if found.any (·.id == block.id) then found else found ++ [block]) []

/-- The blocks that may be at fault, the likeliest first: the one at the failure, the one before it,
that of the open collection, what is around them, and the whole document. -/
def suspects (outline : Outline) (working : List Char) (failure : Failure) : List Block :=
  let size := Text.byteLength working
  let here := (outline.find? failure.offset).orElse fun _ => outline.find? size
  let hereStep := here.bind stepBlock?
  let shown := Text.trimRight ((Text.takeBytes? working (min failure.offset size)).getD [])
  let before :=
    match Text.byteLength shown with
    | 0 => none
    | length + 1 => (outline.find? length).bind stepBlock?
  let opened := (failure.openStart.bind outline.find?).bind stepBlock?
  distinctBlocks (hereStep.toList ++ before.toList ++ opened.toList ++ (opened.map stepAncestors).getD [] ++
    (hereStep.map stepAncestors).getD [] ++ (here.bind Block.document?).toList)

structure Isolated where
  block : Block
  region : Region
  text : List Char

def isolated? (working : List Char) (block : Block) : Option Isolated :=
  let region := blankRegion block
  let text := blank region working
  if region.isEmpty || text = working then none else some ⟨block, region, text⟩

/-- The first candidate without which the text can be read, else the first that moves the failure on. -/
def choose (read : TextReader) (failure : Failure) : Option Isolated → List Isolated → Option Isolated
  | progress, [] => progress
  | progress, candidate :: rest =>
      match read candidate.text with
      | .ok _ => some candidate
      | .error next =>
          if failure.offset < next.offset then choose read failure (progress.or (some candidate)) rest
          else choose read failure progress rest

def isolate (read : TextReader) (outline : Outline) (working : List Char) (failure : Failure) : Option Isolated :=
  choose read failure none ((suspects outline working failure).filterMap (isolated? working))

/-- What recovery has come to. `events` is missing as long as the text could not be read. -/
structure Recovery where
  working : List Char
  errors : List SyntaxError := []
  damage : List Damage := []
  events : Option (List LocatedEvent) := none

namespace Recovery

def errorRegion (chars : List Char) (offset : Nat) : Region :=
  let start := Text.floorBoundary chars offset
  ⟨start, start + (((Text.dropBytes? chars start).bind List.head?).map Char.utf8Size).getD 0⟩

def fail (recovery : Recovery) (chars : List Char) (failure : Failure) : Recovery :=
  { recovery with errors := recovery.errors ++ [⟨failure.cause.message, errorRegion chars failure.offset⟩] }

def blankOut (recovery : Recovery) (isolated : Isolated) : Recovery :=
  { recovery with
    working := isolated.text
    damage := recovery.damage.filter (fun other => !isolated.region.encloses other.region) ++
      [Damage.ofBlock isolated.block isolated.region] }

def rounds (read : TextReader) (outline : Outline) (chars : List Char) : Nat → Recovery → Recovery
  | 0, recovery => recovery
  | fuel + 1, recovery =>
      match read recovery.working with
      | .ok events => { recovery with events := some events }
      | .error failure =>
          let failed := recovery.fail chars failure
          match isolate read outline recovery.working failure with
          | none => failed
          | some isolated => rounds read outline chars fuel (failed.blankOut isolated)

def run (read : TextReader) (outline : Outline) (chars : List Char) : Recovery :=
  rounds read outline chars (outline.size + 2) ⟨chars, [], [], none⟩

end Recovery
end YamlDialects.Yaml
