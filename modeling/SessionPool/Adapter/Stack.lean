import SessionPool.Adapter.Codec
import SessionPool.Table

/-!
# Stacks of adapters

A stack is a row of layers, searched from the newest to the oldest. A derived stack shares the
layers of its parent and has a new layer of its own, so that what is registered on it does not
show in the parent. What a search finds may have a replacement, entered once under its name.
-/

set_option autoImplicit false

namespace SessionPool.Adapter

/-- Replacements for encoders and decoders, by the name of what they replace. -/
structure Replacements where
  encoders : List (String × Encoder) := []
  decoders : List (String × Decoder) := []

namespace Replacements

def lacksEncoder (r : Replacements) (name : String) : Bool := (Table.get? r.encoders name).isNone

def lacksDecoder (r : Replacements) (name : String) : Bool := (Table.get? r.decoders name).isNone

/-- Enters a replacement for an encoder, unless there is one. -/
def addEncoder (r : Replacements) (name : String) (e : Encoder) : Replacements :=
  if r.lacksEncoder name then { r with encoders := Table.put r.encoders name e } else r

def addDecoder (r : Replacements) (name : String) (d : Decoder) : Replacements :=
  if r.lacksDecoder name then { r with decoders := Table.put r.decoders name d } else r

/-- The replacement for an encoder, or the encoder itself. -/
def encoderFor (r : Replacements) (e : Encoder) : Encoder := (Table.get? r.encoders e.name).getD e

def decoderFor (r : Replacements) (d : Decoder) : Decoder := (Table.get? r.decoders d.name).getD d

/-- How the replacements are shown: their numbers. -/
def shown (r : Replacements) : String :=
  Text.shownRecord "OptimisedAdapters"
    [("dumpers", toString r.encoders.length), ("loaders", toString r.decoders.length)]

end Replacements

/-- One layer: encoders by kind and request, decoders by type and format. -/
structure Layer where
  encoders : List ((Kind × Wanted) × Encoder) := []
  decoders : List ((TypeId × Format) × Decoder) := []

def Layer.size (l : Layer) : Nat := l.encoders.length + l.decoders.length

/-- Layers from the newest to the oldest. There is always the stack's own layer. -/
structure Stack where
  own : Layer := {}
  inherited : List Layer := []

namespace Stack

/-- All layers, the stack's own one first. -/
def layers (s : Stack) : List Layer := s.own :: s.inherited

def depth (s : Stack) : Nat := s.layers.length

/-- A stack with a new layer over all layers of `s`. -/
def derive (s : Stack) : Stack := { own := {}, inherited := s.layers }

/-- Registers an encoder for a kind, in its own format and for requests of any format. -/
def addEncoder (s : Stack) (kind : Kind) (e : Encoder) : Stack :=
  let encoders := Table.put s.own.encoders (kind, .exactly e.format) e
  { s with own := { s.own with encoders := Table.put encoders (kind, .any) e } }

def addDecoder (s : Stack) (type : TypeId) (d : Decoder) : Stack :=
  { s with own := { s.own with decoders := Table.put s.own.decoders (type, d.format) d } }

def addEncoderNamed (s : Stack) (name : String) (e : Encoder) : Except SessionError Stack :=
  match Kind.ofName? name with
  | some kind => .ok (s.addEncoder kind e)
  | none => .error (.unknownType name)

def addDecoderNamed (s : Stack) (name : String) (d : Decoder) : Except SessionError Stack :=
  match typeOfName? name with
  | some type => .ok (s.addDecoder type d)
  | none => .error (.unknownType name)

/-- Registers the adapters for booleans, the binary ones last. -/
def addDefaults (s : Stack) : Stack :=
  (((s.addEncoder .bool .boolText).addEncoder .bool .boolBinary).addDecoder boolType
    .boolText).addDecoder boolType .boolBinary

/-- The encoder for a kind in the format asked for, from the newest layer that has one. -/
def encoder (s : Stack) (r : Replacements) (kind : Kind) (wanted : Wanted) :
    Except SessionError Encoder :=
  match s.layers.findSome? fun l => Table.get? l.encoders (kind, wanted) with
  | some e => .ok (r.encoderFor e)
  | none => .error (.adapt kind wanted)

/-- The decoder for a type and a format, from the newest layer that has one. -/
def decoder? (s : Stack) (r : Replacements) (type : TypeId) (format : Format) : Option Decoder :=
  (s.layers.findSome? fun l => Table.get? l.decoders (type, format)).map r.decoderFor

def shown (s : Stack) (r : Replacements) : String :=
  Text.shownRecord "AdaptersMap" [("layers", toString s.depth), ("registry", r.shown)]

end Stack

end SessionPool.Adapter
