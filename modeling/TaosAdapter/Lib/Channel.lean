import Mathlib.Data.List.Basic

/-!
Contract: a buffered channel with senders that do not wait.

Owns: a send that is given up when the channel is full, and receivers that wait
when it is empty. A value goes to a waiting receiver first, so a channel without
a buffer takes a value only then.
-/

namespace TaosAdapter.Lib

/-- `received` are the values the receivers were given, in this order. -/
structure Channel (Value : Type) where
  capacity : Nat
  queue : List Value
  waiting : Nat
  received : List Value
deriving DecidableEq

namespace Channel

variable {Value : Type}

def make (capacity : Nat) : Channel Value := ⟨capacity, [], 0, []⟩

/-- `select` with a send and a default case. -/
def trySend (channel : Channel Value) (value : Value) : Option (Channel Value) :=
  if 0 < channel.waiting then
    some { channel with waiting := channel.waiting - 1, received := channel.received ++ [value] }
  else if channel.queue.length < channel.capacity then
    some { channel with queue := channel.queue ++ [value] }
  else none

/-- A receiver comes to the channel. -/
def receive (channel : Channel Value) : Channel Value :=
  match channel.queue with
  | value :: queue => { channel with queue := queue, received := channel.received ++ [value] }
  | [] => { channel with waiting := channel.waiting + 1 }

end Channel

end TaosAdapter.Lib
