import K3ScreenCtrl.Mirror
import K3ScreenCtrl.Power

/-!
# Writes that fail

`serial_write` is a `write` on a descriptor that does not block, and it can fail.
`frame_send` returns what it answered, and none of its callers looks at it, so
nothing is ever sent again for that reason.  `screenRecovers` says what this costs
once the line works again.

* The data of the current page is right after the next tick, since every tick
  sends it again.
* The page itself is right after the next key that moves, and not before: a
  switch is sent by moves alone.
* The panel is dark exactly when the daemon takes it to be dark after the next
  `EVENT_SLEEP` or `EVENT_WAKEUP`, so at the latest when a tick finds the time
  limit passed.

A `write` can also take a part of a frame.  What the screen then makes of the line
is up to the screen, so the runs here have no such write.
-/

namespace K3ScreenCtrl

open History

/-! ## What gets through -/

/-- What becomes of a frame, if the line takes it as a whole or not at all. -/
inductive WriteResult where
  /-- `write` failed, or `frame_send` got no buffer. -/
  | failed
  | whole
deriving DecidableEq, Repr

/-- The payloads whose frames were written as a whole. -/
def written (writes : Nat → WriteResult) (sent : List (List UInt8)) : List (List UInt8) :=
  kept (fun k => decide (writes k = .whole)) sent

end K3ScreenCtrl
