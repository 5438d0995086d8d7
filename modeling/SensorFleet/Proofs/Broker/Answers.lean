import SensorFleet.Broker

/-!
What a broker answers to a publish and what it is afterwards. A broker in memory takes a message or
leaves it, and it is as it was while a publish waits.
-/
namespace SensorFleet.Broker

inductive Takes (b : Broker) (m : Message) : Answer → Broker → Prop
  | accepts : Takes b m .accepted (b.accept m)
  | refuses (e : PublishError) : Takes b m (.failed e) b

variable {b b' : Broker} {m : Message} {a : Answer} {now : Nat}

theorem finish_takes (h : b.finish (.deliver m) = (a, b')) : b.Takes m a b' := by
  unfold finish at h
  dsimp only at h
  split at h
  · cases h
    exact .refuses _
  · cases h
    exact .accepts

theorem isScripted_congr (kind : b'.kind = b.kind) : b'.isScripted = b.isScripted := by
  simp only [isScripted, kind]

theorem isScripted_of_recording (kind : b.kind = .recording) : b.isScripted = false := by
  simp [isScripted, kind]

/-- Brokers in memory differ in what they keep, not in how a publish starts. -/
theorem start_inMemory (inMemory : b.isScripted = false) (now : Nat) (m : Message) :
    b.start now m =
      if !b.isConnected then (.done (.failed .notConnected), b)
      else if b.delay = 0 then (.done (b.finish (.deliver m)).1, (b.finish (.deliver m)).2)
      else (.waiting ⟨Instant.after? now (Duration.ofMillis b.delay), .deliver m⟩, b) := by
  cases kind : b.kind with
  | scripted calls e => simp [isScripted, kind] at inMemory
  | recording | loopback => simp only [start, kind]

theorem start_takes (inMemory : b.isScripted = false) (h : b.start now m = (.done a, b')) :
    b.Takes m a b' := by
  rw [start_inMemory inMemory] at h
  split at h
  · cases h
    exact .refuses _
  · split at h
    · cases h
      exact finish_takes rfl
    · cases h

theorem start_waits (inMemory : b.isScripted = false) {pending : PendingPublish}
    (h : b.start now m = (.waiting pending, b')) : b' = b ∧ pending.remainder = .deliver m := by
  rw [start_inMemory inMemory] at h
  split at h
  · cases h
  · split at h
    · cases h
    · cases h
      exact ⟨rfl, rfl⟩

theorem start_of_not_isConnected (inMemory : b.isScripted = false) (cut : b.isConnected = false)
    (now : Nat) (m : Message) : b.start now m = (.done (.failed .notConnected), b) := by
  rw [start_inMemory inMemory, cut]
  rfl

theorem not_isConnected_of_closed (closed : b.closed = true) : b.isConnected = false := by
  simp [isConnected, closed]

theorem close_inMemory (inMemory : b.isScripted = false) :
    b.close.2 = { b with closed := true } := by
  cases kind : b.kind with
  | scripted calls e => simp [isScripted, kind] at inMemory
  | recording | loopback => simp only [close, kind]

/-! ## What stays -/

theorem accept_kind (b : Broker) (m : Message) : (b.accept m).kind = b.kind := by
  unfold accept
  split <;> rfl

theorem accept_closed (b : Broker) (m : Message) : (b.accept m).closed = b.closed := by
  unfold accept
  split <;> rfl

theorem finish_kind (b : Broker) (rest : Remainder) : (b.finish rest).2.kind = b.kind := by
  unfold finish
  split
  · rfl
  · split
    · rfl
    · exact accept_kind b _

theorem start_kind (b : Broker) (now : Nat) (m : Message) : (b.start now m).2.kind = b.kind := by
  unfold start
  cases kind : b.kind with
  | scripted calls e =>
    dsimp only
    split <;> rfl
  | recording | loopback =>
    dsimp only
    split
    · exact kind
    · split
      · exact (finish_kind _ _).trans kind
      · exact kind

theorem close_kind : b.close.2.kind = b.kind := by
  unfold close
  split <;> rfl

theorem turn_kind (switch : BrokerSwitch) : (b.turn switch).kind = b.kind := by
  cases switch <;> rfl

theorem turn_closed (switch : BrokerSwitch) : (b.turn switch).closed = b.closed := by
  cases switch <;> rfl

end SensorFleet.Broker
