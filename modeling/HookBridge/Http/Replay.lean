/-
**Replayed exchanges.**

A run that posts texts can be played against exchanges that have taken place already.  As long as
they last it goes on; the first posting that none is left for is what has to be done next.  Played
again with one exchange more, the run comes to the same posting and goes past it.

Main definitions:

* `HookBridge.Http.Replay` — the exchanges that are left, and the posting that is due;
* `HookBridge.Http.Replay.post` — the transport that replays them.
-/

import HookBridge.Http.Network

set_option relaxedAutoImplicit false
set_option autoImplicit false

namespace HookBridge

namespace Http

/-- The exchanges that are left, and the first posting that none was left for. -/
structure Replay where
  left : List Exchange
  due : Option Posting

namespace Replay

/-- The beginning of a run against known exchanges. -/
def start (known : List Exchange) : Replay := ⟨known, none⟩

/-- Answers a posting by the next exchange.  If none is left, what is answered does not matter: the
run will be played again. -/
def post : Transport Replay := fun posting r =>
  match r.left with
  | e :: rest => (e, { r with left := rest })
  | [] => (⟨.refused, .zero⟩, { r with due := r.due.or (some posting) })

end Replay

end Http

end HookBridge
