import GameTips.Catalog.Basic

/-!
# Rotation

A rotation keeps one tip on screen for its time and then goes on to another. A tip is picked when a
screen opens while none is active, and again when the active one has expired or is gone from the
catalog. A clock that goes back counts as standing still.
-/

namespace GameTips

/-- A moment, in nanoseconds after a fixed one. -/
structure Moment where
  nanos : Nat
deriving DecidableEq, Repr

namespace Moment

/-- The number of nanoseconds in a millisecond. -/
def nanosPerMilli : Nat := 1000000

/-- The moment that comes so many milliseconds after the fixed one. -/
def ofMillis (millis : Nat) : Moment := ⟨millis * nanosPerMilli⟩

instance : Coe Nat Moment := ⟨ofMillis⟩

/-- The nanoseconds between two moments; none where the second does not come after the first. -/
def elapsed (since now : Moment) : Nat :=
  now.nanos - since.nanos

end Moment

/-- The time for which the tip stays, in nanoseconds. -/
def Tip.cycleNanos (t : Tip) (config : Config) : Nat :=
  (t.cycleTime config).toNat * Moment.nanosPerMilli

/-- The tip that was picked, and when. -/
structure Active where
  id : Identifier
  since : Moment
deriving DecidableEq, Repr

/-- The state of a rotation: the active tip, and the key of the last screen on whose opening a tip
was picked. -/
structure Rotation (κ : Type) where
  active : Option Active
  lastScreen : Option κ
deriving DecidableEq, Repr

namespace Rotation

variable {κ ρ : Type}

def start : Rotation κ := ⟨none, none⟩

def current (r : Rotation κ) : Option Identifier :=
  r.active.map Active.id

/-- Whether the active tip has had its time, or is no longer in the catalog. -/
def isExpired (a : Active) (catalog : Catalog) (config : Config) (now : Moment) : Bool :=
  match catalog.get? a.id with
  | none => true
  | some t => t.cycleNanos config < a.since.elapsed now

/-- Pick one of the tips that can be shown. -/
def pick (chooser : Chooser ρ Tip) (catalog : Catalog) (ctx : DisplayContext) (now : Moment) (s : ρ) :
    Traced (Option Active × ρ) := do
  let (tip, s) ← catalog.randomTip ctx chooser s
  match tip with
  | none => pure (none, s)
  | some t => do
    Traced.note (.tipShown t.id)
    pure (some ⟨t.id, now⟩, s)

/-- The first half of a tick: pick a tip where none is active and the screen is another one. -/
def openScreen [BEq κ] (chooser : Chooser ρ Tip) (r : Rotation κ) (catalog : Catalog)
    (ctx : DisplayContext) (screen : κ) (now : Moment) (s : ρ) : Traced (Rotation κ × ρ) :=
  if r.active.isNone && r.lastScreen != some screen then do
    let (active, s) ← pick chooser catalog ctx now s
    pure (⟨active, some screen⟩, s)
  else pure (r, s)

/-- The second half of a tick: pick another tip where the active one has expired. -/
def replaceExpired (chooser : Chooser ρ Tip) (r : Rotation κ) (catalog : Catalog) (config : Config)
    (ctx : DisplayContext) (now : Moment) (s : ρ) : Traced (Rotation κ × ρ) :=
  if r.active.any fun a => isExpired a catalog config now then do
    let (active, s) ← pick chooser catalog ctx now s
    pure ({ r with active := active }, s)
  else pure (r, s)

/-- The active tip, if it can be shown. -/
def shown (r : Rotation κ) (catalog : Catalog) (ctx : DisplayContext) : Traced (Option Tip) :=
  match r.current.bind catalog.get? with
  | none => pure none
  | some t => do
    let displayed ← t.canDisplay ctx
    pure (if displayed then some t else none)

/-- Go on to a moment: the tip to show now, the new state, and the state of the random source. -/
def tick [BEq κ] (chooser : Chooser ρ Tip) (r : Rotation κ) (catalog : Catalog) (config : Config)
    (ctx : DisplayContext) (screen : κ) (now : Moment) (s : ρ) :
    Traced (Option Tip × Rotation κ × ρ) := do
  let (r, s) ← openScreen chooser r catalog ctx screen now s
  let (r, s) ← replaceExpired chooser r catalog config ctx now s
  let tip ← r.shown catalog ctx
  pure (tip, r, s)

end Rotation
end GameTips
