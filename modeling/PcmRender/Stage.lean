/-
  PcmRender.Stage — **conversion between the format of the source and that of the device.**

  A route whose device renders another rate or another sample layout than its source passes all
  audio through a conversion stage.  `Stage` lists what a route asks of one; which frames it makes
  is its own affair.  The number of channels never changes on the way.

  Main definitions:
    * `Stage` — the operations,
    * `needsConversion` — when a route has a stage,
    * `Stage.between` — the stage of a route, if it has one.
-/
import PcmRender.Error
import PcmRender.Format

namespace PcmRender

/-- What a conversion made of some bytes. -/
structure Conversion (κ : Type) where
  /-- How many bytes it took; these are whole frames. -/
  consumed : Nat
  /-- The converted bytes. -/
  output : List UInt8
  /-- The stage afterwards. -/
  next : κ

/-- Conversion stages from one format to another. -/
class Stage (κ : Type) where
  /-- A stage between two formats. -/
  create : Format → Format → Except RenderError κ
  /-- Converts some bytes; `none` if it looks for a sample where there is none. -/
  process? : κ → List UInt8 → Option (Conversion κ)
  /-- Forgets all audio that has passed. -/
  reset : κ → κ

/-- Whether audio has to be converted on its way from one format to the other. -/
def needsConversion (source device : Format) : Bool :=
  source.rate != device.rate || source.bits != device.bits || source.kind != device.kind
    || source.order != device.order

namespace Stage

/-- The device format with the channels of the source. -/
def outputFormat (source device : Format) : Format :=
  { device with
    channels := source.channels
    align := device.sampleSize * source.channels % Nat.pow 2 16 }

/-- The stage that a route from one format to the other needs, if it needs one. -/
def between (κ : Type) [Stage κ] (source device : Format) : Except RenderError (Option κ) :=
  if needsConversion source device then
    (Stage.create source (outputFormat source device)).map some
  else .ok none

end Stage

end PcmRender
