import YamlDialects.Yaml.Event.Basic
import YamlDialects.Yaml.Chars
import YamlDialects.Yaml.Node

/-!
Composing the nodes of documents from events.

The events belong to a text in which some blocks may have been blanked out. Blanking keeps byte
offsets, so regions are given in the unblanked text, at its character boundaries.
-/

set_option autoImplicit false

namespace YamlDialects.Yaml

def byteOf (chars : List Char) (index : Nat) : Nat :=
  Text.byteLength (chars.take index)

/-- The text that was read and the text that regions refer to. -/
structure Source where
  read : List Char
  shown : List Char

namespace Source

def offset (source : Source) (mark : Mark) : Nat :=
  Text.floorBoundary source.shown (byteOf source.read mark.index)

def onward (source : Source) (start : Nat) : List Char :=
  (Text.dropBytes? source.read start).getD []

def between (source : Source) (start stop : Nat) : List Char :=
  (Text.slice? source.read start stop).getD []

def trimmed (source : Source) (start stop : Nat) : Region :=
  let stop := max start (min stop (Text.byteLength source.read))
  ⟨start, start + Text.byteLength (Text.trimRight (source.between start stop))⟩

/-- Where a collection ends: that of a flow collection at its closing bracket. -/
def closing (source : Source) (start last : Nat) (opening closing : Char) (span : Span) : Nat :=
  if (source.onward start).head? == some opening then
    let begin := max last (start + 1)
    match Text.findOffset? (· == closing) (source.onward begin) with
    | some distance => begin + distance + 1
    | none => max last (source.offset span.stop)
  else last

def isImplicit (source : Source) (text : String) (style : ScalarStyle) (start : Nat) : Bool :=
  style == .plain && (text.isEmpty || (text == "~" && (source.onward start).head? != some '~'))

end Source

/-- The events to come, and the end of what was composed last: there a missing node is put. -/
structure Composer where
  events : List LocatedEvent
  last : Nat

namespace Composer

def scalar (source : Source) (text : String) (style : ScalarStyle) (span : Span)
    (rest : List LocatedEvent) (last : Nat) : Node × Composer :=
  let start := source.offset span.start
  if source.isImplicit text style start then (.scalar "" (.empty last), ⟨rest, last⟩)
  else
    let region := source.trimmed start (source.offset span.stop)
    (.scalar text region, ⟨rest, region.stop⟩)

def reference (source : Source) (span : Span) (rest : List LocatedEvent) : Node × Composer :=
  let region := source.trimmed (source.offset span.start) (source.offset span.stop)
  let text := String.ofList (source.between region.start region.stop)
  (.scalar text region, ⟨rest, region.stop⟩)

mutual

/-- Composes the next node; each call below it has used up an event. -/
def node (source : Source) : Nat → Composer → Option (Node × Composer)
  | 0, _ => none
  | _ + 1, ⟨[], _⟩ => none
  | fuel + 1, ⟨event :: rest, last⟩ =>
      let start := source.offset event.span.start
      match event.event with
      | .scalar text style _ => some (scalar source text style event.span rest last)
      | .reference _ => some (reference source event.span rest)
      | .mappingStart _ =>
          let (entries, stop, rest) := entries source start fuel start ⟨rest, start⟩
          some (.mapping entries ⟨start, stop⟩, ⟨rest, stop⟩)
      | .sequenceStart _ =>
          let inside := Text.floorBoundary source.shown (start + 1)
          let (items, stop, rest) := items source start fuel start ⟨rest, inside⟩
          some (.sequence items ⟨start, stop⟩, ⟨rest, stop⟩)
      | _ => none

def entries (source : Source) (start : Nat) : Nat → Nat → Composer → List (Node × Node) × Nat × List LocatedEvent
  | 0, stop, composer => ([], stop, composer.events)
  | fuel + 1, stop, composer =>
      match composer.events with
      | [] => ([], stop, [])
      | ⟨.mappingEnd, span⟩ :: rest => ([], source.closing start stop '\x7b' '\x7d' span, rest)
      | _ =>
          match node source fuel composer with
          | none => ([], stop, composer.events)
          | some (key, composer) =>
              let (value, composer) :=
                (node source fuel composer).getD (.scalar "" (.empty key.region.stop), composer)
              let (others, stop, rest) :=
                entries source start fuel (max (max stop key.region.stop) value.region.stop) composer
              ((key, value) :: others, stop, rest)

def items (source : Source) (start : Nat) : Nat → Nat → Composer → List Node × Nat × List LocatedEvent
  | 0, stop, composer => ([], stop, composer.events)
  | fuel + 1, stop, composer =>
      match composer.events with
      | [] => ([], stop, [])
      | ⟨.sequenceEnd, span⟩ :: rest => ([], source.closing start stop '[' ']' span, rest)
      | _ =>
          match node source fuel composer with
          | none => ([], stop, composer.events)
          | some (item, composer) =>
              let (others, stop, rest) := items source start fuel (max stop item.region.stop) composer
              (item :: others, stop, rest)

end

def afterDocument : List LocatedEvent → List LocatedEvent
  | [] => []
  | event :: rest => if event.event = .documentEnd then rest else afterDocument rest

def roots (source : Source) : Nat → List LocatedEvent → List Node
  | 0, _ => []
  | _ + 1, [] => []
  | fuel + 1, event :: rest =>
      if event.event = .documentStart then
        let start := source.offset event.span.start
        let composer : Composer := ⟨rest, start⟩
        let (root, composer) := (node source (2 * rest.length + 2) composer).getD (.scalar "" (.empty start), composer)
        root :: roots source fuel (afterDocument composer.events)
      else roots source fuel rest

end Composer

def composeDocuments (source : Source) (events : List LocatedEvent) : List Node :=
  Composer.roots source (events.length + 1) events

end YamlDialects.Yaml
