/-!
# Shutdown signals

Servers subscribe to a channel and are told to stop through it. A channel numbers its signals; a
subscriber keeps the number of the next one that it has to see. Only the latest signal is kept, so a
subscriber that missed more is told how many before it sees that one.
-/

namespace Detour.Shutdown

/-- A channel, shared by a handle and its clones. -/
structure Channel where
  /-- Number of signals that were sent while somebody listened. -/
  sent : Nat
deriving Repr, DecidableEq, Inhabited

/-- Somebody who waits for the signals of a channel. -/
structure Subscriber where
  channel : Nat
  /-- Number of the next signal to see. -/
  next : Nat
deriving Repr, DecidableEq, Inhabited

/-- All channels, the channel of each handle, and the subscribers by their numbers; those that have
gone leave their numbers unused. -/
structure Hub where
  channels : List Channel
  handles : List Nat
  subscribers : List (Option Subscriber)
deriving Repr, DecidableEq, Inhabited

/-- What a subscriber finds. -/
inductive Received where
  | signal
  | nothing
  /-- So many signals were missed. -/
  | lagged (missed : Nat)
deriving Repr, DecidableEq, Inhabited

namespace Hub

def empty : Hub := ⟨[], [], []⟩

/-- A handle on a channel of its own. -/
def create (h : Hub) : Nat × Hub :=
  (h.handles.length,
    { h with channels := h.channels ++ [⟨0⟩], handles := h.handles ++ [h.channels.length] })

/-- The channel of a handle. -/
def channelOf? (h : Hub) (handle : Nat) : Option Nat := h.handles[handle]?

/-- Another handle on the same channel. -/
def clone? (h : Hub) (handle : Nat) : Option (Nat × Hub) :=
  (h.channelOf? handle).map fun c => (h.handles.length, { h with handles := h.handles ++ [c] })

/-- Number of signals sent on a channel. -/
def sentOn (h : Hub) (channel : Nat) : Nat :=
  match h.channels[channel]? with
  | some c => c.sent
  | none => 0

/-- Number of subscribers of a channel. -/
def listeners (h : Hub) (channel : Nat) : Nat :=
  h.subscribers.countP fun s => s.any fun s => s.channel = channel

/-- A new subscriber, who sees the signals from now on. -/
def subscribe? (h : Hub) (handle : Nat) : Option (Nat × Hub) :=
  (h.channelOf? handle).map fun c =>
    (h.subscribers.length,
      { h with subscribers := h.subscribers ++ [some ⟨c, h.sentOn c⟩] })

/-- Sends a signal. It is lost if nobody listens. -/
def trigger? (h : Hub) (handle : Nat) : Option Hub :=
  (h.channelOf? handle).map fun c =>
    if h.listeners c = 0 then h
    else { h with channels := h.channels.modify c fun ch => ⟨ch.sent + 1⟩ }

/-- A subscriber goes away. -/
def drop (h : Hub) (id : Nat) : Hub := { h with subscribers := h.subscribers.set id none }

def subscriber? (h : Hub) (id : Nat) : Option Subscriber := h.subscribers[id]?.join

/-- What a subscriber finds who looks for a signal, and what it has to see next. -/
def look (h : Hub) (s : Subscriber) : Received × Nat :=
  let sent := h.sentOn s.channel
  if sent ≤ s.next then (.nothing, s.next)
  else if s.next + 1 = sent then (.signal, sent)
  else (.lagged (sent - 1 - s.next), sent - 1)

/-- A subscriber looks for a signal. -/
def receive? (h : Hub) (id : Nat) : Option (Received × Hub) :=
  (h.subscriber? id).map fun s =>
    let (found, next) := h.look s
    (found, { h with subscribers := h.subscribers.set id (some { s with next := next }) })

/-- Number of subscribers that each handle reaches. -/
def counts (h : Hub) : List Nat := h.handles.map h.listeners

end Hub

end Detour.Shutdown
