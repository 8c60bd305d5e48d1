import PortMapper.Client.Basic
import PortMapper.Proofs.Frame.Stream

/-!
# What a client reads of what arrives

A read of so many bytes comes to its end if they arrive or the daemon closes, and brings the first of the bytes in
whatever chunks they come (`Client.readReply_of_completes`). Otherwise it waits until the time of the call is up, or fails
with the connection (`Client.readReply_of_breaks`). A read without a limit brings all bytes, and comes to its end exactly
if the daemon closes behind them (`Client.received_of_closes`, `Client.received_of_not_closes`).
-/

namespace PortMapper

namespace Incoming

variable {incoming : Incoming} {limit : Nat}

/-- The daemon closes, or sends so many bytes. -/
def Completes (incoming : Incoming) (limit : Nat) : Prop :=
  incoming.closes = true ∨ limit ≤ incoming.stream.unread.length

theorem orderly_ofBytes (bytes : Bytes) (closes : Bool) : (ofBytes bytes closes).stream.Orderly := by
  cases bytes with
  | nil => exact List.forall_mem_nil _
  | cons byte bytes => exact List.forall_mem_singleton.mpr (List.cons_ne_nil byte bytes)

theorem unread_ofBytes (bytes : Bytes) (closes : Bool) : (ofBytes bytes closes).stream.unread = bytes := by
  cases bytes with
  | nil => rfl
  | cons byte bytes => exact List.append_nil _

end Incoming

/-- The connection is made and does not break, and the daemon closes it behind these bytes, in whatever chunks they
come. -/
def Exchange.Closes (reply : Bytes) : Exchange → Prop
  | replied incoming => incoming.closes = true ∧ incoming.stream.Orderly ∧ incoming.stream.unread = reply
  | unreachable _ | connectTimeout | broken _ => False

theorem Exchange.closes_closed (reply : Bytes) : (closed reply).Closes reply :=
  ⟨rfl, Incoming.orderly_ofBytes reply true, Incoming.unread_ofBytes reply true⟩

namespace Client

variable {incoming : Incoming} {limit : Nat}

/-- What is read of a reply until `limit` bytes have come. -/
theorem readReply_of_completes (client : Client) (part : String) (orderly : incoming.stream.Orderly)
    (completes : incoming.Completes limit) :
    client.readReply part (some limit) incoming = .ok (incoming.stream.unread.take limit) := by
  obtain ⟨left, filled, _⟩ := Stream.fill_of_orderly limit orderly
  have read : incoming.readUpTo limit = some (.ok (incoming.stream.unread.take limit)) := by
    rw [Incoming.readUpTo, filled]
    refine if_pos (completes.imp_right fun enough => ?_)
    exact Nat.le_of_eq (List.length_take_of_le enough).symm
  rw [readReply, Incoming.read, read]

theorem readReply_of_not_completes (client : Client) (part : String) (orderly : incoming.stream.Orderly)
    (waits : ¬ incoming.Completes limit) :
    client.readReply part (some limit) incoming = .error (.timedOut part client.settings.requestTimeout) := by
  obtain ⟨left, filled, _⟩ := Stream.fill_of_orderly limit orderly
  have read : incoming.readUpTo limit = none := by
    rw [Incoming.readUpTo, filled]
    refine if_neg fun completes => waits (completes.imp_right fun enough => ?_)
    exact Nat.le_trans enough (List.length_take_le' _ _)
  rw [readReply, Incoming.read, read]

/-- A connection that breaks is noticed exactly if fewer bytes have come before. -/
theorem readReply_of_breaks {front : Stream} {cause : String} (client : Client) (part : String)
    (orderly : front.Orderly) (breaks : front ++ [.failure cause] <+: incoming.stream) :
    client.readReply part (some limit) incoming =
      if limit ≤ front.unread.length then .ok (front.unread.take limit) else .error (.broken cause) := by
  obtain ⟨later, behind⟩ := breaks
  rw [List.append_assoc] at behind
  obtain ⟨left, filled⟩ : ∃ left, incoming.stream.fill limit = (_, left) :=
    behind ▸ Stream.fill_append_failure limit orderly cause later
  rw [readReply, Incoming.read, Incoming.readUpTo, filled]
  by_cases enough : limit ≤ front.unread.length
  · have taken : limit ≤ (front.unread.take limit).length := Nat.le_of_eq (List.length_take_of_le enough).symm
    simp only [if_pos enough, taken, or_true, if_true]
  · simp only [if_neg enough]

variable {exchange : Exchange} {reply : Bytes}

theorem isConnected_of_closes (closes : exchange.Closes reply) : exchange.isConnected = true := by
  cases exchange with
  | replied incoming => rfl
  | unreachable cause | connectTimeout | broken cause => exact absurd closes id

/-- A read to the end gets the whole reply when the daemon closes. -/
theorem received_of_closes (client : Client) (part : String) (closes : exchange.Closes reply) :
    client.received part none exchange = .ok reply := by
  cases exchange with
  | replied incoming =>
    obtain ⟨ends, orderly, rfl⟩ := closes
    have read : incoming.read none = some (.ok incoming.stream.unread) := by
      rw [Incoming.read, Incoming.readToEnd, Stream.drain_of_orderly orderly]
      exact if_pos ends
    rw [received, readReply, read]
  | unreachable cause | connectTimeout | broken cause => exact absurd closes id

/-- A read to the end fails for the connection unless the daemon closes. -/
theorem received_of_not_closes (client : Client) (part : String) (waits : ∀ reply, ¬ exchange.Closes reply) :
    ∃ error, client.received part none exchange = .error error ∧ error.isConnection = true := by
  cases exchange with
  | unreachable cause => exact ⟨_, rfl, rfl⟩
  | connectTimeout => exact ⟨_, rfl, rfl⟩
  | broken cause => exact ⟨_, rfl, rfl⟩
  | replied incoming =>
    rw [received, readReply, Incoming.read, Incoming.readToEnd]
    cases drained : incoming.stream.drain with
    | error cause => exact ⟨_, rfl, rfl⟩
    | ok bytes =>
      have orderly := Stream.orderly_of_drain incoming.flows drained
      have stays : ¬ incoming.closes = true := fun ends => waits _ ⟨ends, orderly, rfl⟩
      refine ⟨.timedOut part client.settings.requestTimeout, ?_, rfl⟩
      simp only [if_neg stays]

end Client

end PortMapper
