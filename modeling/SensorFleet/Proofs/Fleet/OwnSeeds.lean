import SensorFleet.Proofs.Fleet.Seeds

/-!
No two sources of a seeded factory have the same seed. The producer is mixed into the upper half of the
seed, so the lower half is that of the place among all calls times an odd number, which can be
cancelled; and with the places known to be the same, the upper half gives the producer away.
-/
namespace SensorFleet

namespace SourceFactory
variable {seed : UInt64} {k k' : Nat} {id id' : ProducerId} {made : List ProducerId}

/-- The lower half of the factor can be cancelled on its own. -/
theorem mul_low_factor_inj {x y : UInt32} : x * 0x7f4a7c15 = y * 0x7f4a7c15 ↔ x = y := by
  have inverse (z : UInt32) : z * 0x7f4a7c15 * 0x9937733d = z := by
    rw [UInt32.mul_assoc, show (0x7f4a7c15 : UInt32) * 0x9937733d = 1 from rfl, UInt32.mul_one]
  constructor
  · intro same
    rw [← inverse x, same, inverse y]
  · intro same
    rw [same]

theorem toNat_upper (id : ProducerId) : (id.toUInt64 <<< 32).toNat = id.toNat * 2 ^ 32 := by
  have shift : (32 : UInt64).toNat % 64 = 32 := rfl
  have few := id.toNat_lt
  rw [UInt64.toNat_shiftLeft, shift, Nat.shiftLeft_eq, UInt32.toNat_toUInt64]
  apply Nat.mod_eq_of_lt
  omega

theorem toUInt32_upper (id : ProducerId) : (id.toUInt64 <<< 32).toUInt32 = 0 := by
  apply UInt32.toNat_inj.mp
  rw [UInt64.toNat_toUInt32, toNat_upper, Nat.mul_mod_left]
  rfl

theorem upper_inj : id.toUInt64 <<< 32 = id'.toUInt64 <<< 32 ↔ id = id' := by
  rw [← UInt64.toNat_inj, toNat_upper, toNat_upper, ← UInt32.toNat_inj]
  omega

/-- The lower half of a seed shows nothing of the producer. -/
theorem mixedSeed_low (seed : UInt64) (k : Nat) (id : ProducerId) :
    (mixedSeed seed k id).toUInt32 = seed.toUInt32 ^^^ UInt32.ofNat k * 0x7f4a7c15 := by
  have factor : (0x9e3779b97f4a7c15 : UInt64).toUInt32 = 0x7f4a7c15 := rfl
  rw [mixedSeed, UInt64.toUInt32_xor, UInt64.toUInt32_xor, UInt64.toUInt32_mul, Nat.toUInt64_eq,
    UInt64.toUInt32_ofNat', factor, toUInt32_upper, UInt32.xor_zero]

/-- A seed gives its place away, up to a half word. -/
theorem place_of_mixedSeed (same : mixedSeed seed k id = mixedSeed seed k' id') :
    k % UInt32.size = k' % UInt32.size := by
  have low := congrArg UInt64.toUInt32 same
  rw [mixedSeed_low, mixedSeed_low, UInt32.xor_right_inj, mul_low_factor_inj] at low
  exact congrArg UInt32.toNat low

/-- A seed belongs to one place and one producer, as long as the places are those of a half word. -/
theorem mixedSeed_eq_iff (few : k < UInt32.size) (few' : k' < UInt32.size) :
    mixedSeed seed k id = mixedSeed seed k' id' ↔ k = k' ∧ id = id' := by
  constructor
  · intro same
    have place := place_of_mixedSeed same
    rw [Nat.mod_eq_of_lt few, Nat.mod_eq_of_lt few'] at place
    subst place
    rw [mixedSeed, mixedSeed, UInt64.xor_right_inj, upper_inj] at same
    exact ⟨rfl, same⟩
  · rintro ⟨rfl, rfl⟩
    rfl

def seeds (seed : UInt64) (made : List ProducerId) : List UInt64 :=
  made.mapIdx (mixedSeed seed)

theorem seeds_getElem? (k : Nat) :
    (seeds seed made)[k]? = (made[k]?).map (mixedSeed seed k) :=
  List.getElem?_mapIdx

theorem seeds_length : (seeds seed made).length = made.length :=
  List.length_mapIdx

theorem nodup_seeds (few : made.length ≤ UInt32.size) : (seeds seed made).Nodup := by
  apply List.pairwise_iff_getElem.mpr
  intro k k' lt lt' earlier same
  rw [seeds_length] at lt lt'
  simp only [seeds, List.getElem_mapIdx] at same
  have together := (mixedSeed_eq_iff (lt.trans_le few) (lt'.trans_le few)).mp same
  omega

end SourceFactory

namespace Simulation

/-- What a seeded factory mixes for one call agrees with what it mixes for another only where both
are the same call, whichever producers they are for. So the seeds of all sources that an execution
asks for differ, and each run draws from the stream of the seed at its own place among them. -/
theorem own_seed (seed : UInt64) :
    (∀ k k' id id', k < UInt32.size → k' < UInt32.size →
      (SourceFactory.mixedSeed seed k id = SourceFactory.mixedSeed seed k' id' ↔
        k = k' ∧ id = id')) ∧
    ∀ (c : Config) (p : Equipment) (m : Simulation), Reachable c p m → p.sources = .seeded seed →
      (m.scene.made.length ≤ UInt32.size → (SourceFactory.seeds seed m.scene.made).Nodup) ∧
      (c.producers < UInt32.size → ∀ (i : Nat) t station, m.supervisors[i]? = some t →
        t.phase = .supervising station → ∃ n k s, t.slot.attempts = n + 1 ∧
          IsNth t.slot.id m.scene.made n k ∧ (SourceFactory.seeds seed m.scene.made)[k]? = some s ∧
          station.run.source = .random s) := by
  refine ⟨fun k k' id id' few few' => SourceFactory.mixedSeed_eq_iff few few', ?_⟩
  intro c p m h seeded
  refine ⟨SourceFactory.nodup_seeds, ?_⟩
  intro few i t station found phase
  obtain ⟨n, k, attempt, place, given⟩ := (h.fed few i t found).source station phase
  rw [seeded, SourceFactory.seeded, Creation.source.injEq] at given
  refine ⟨n, k, SourceFactory.mixedSeed seed k t.slot.id, attempt, place, ?_, given.symm⟩
  rw [SourceFactory.seeds_getElem?, place.here]
  rfl

/-- Two producers have started, and the first draws from the first of two seeds, which differ. -/
theorem own_seed_of_two :
    SourceFactory.mixedSeed 7 0 1 ≠ SourceFactory.mixedSeed 7 1 2 ∧
    ∃ (m : Simulation) (t : Supervisor) (station : Station),
      Reachable sown sower m ∧ m.supervisors[0]? = some t ∧ t.phase = .supervising station ∧
      (SourceFactory.seeds 7 m.scene.made).Nodup ∧
      (SourceFactory.seeds 7 m.scene.made)[0]? = some (SourceFactory.mixedSeed 7 0 1) ∧
      station.run.source = .random (SourceFactory.mixedSeed 7 0 1) := by
  obtain ⟨apart, runs⟩ := own_seed 7
  obtain ⟨m, reachable, begun⟩ : ∃ m, Reachable sown sower m ∧ m.isSown [1, 2] = true :=
    exists_reachable [.event (.supervisor 0), .event (.supervisor 1)] (by decide)
  obtain ⟨made, t, station, found, phase, attempt⟩ := first_of_isSown begun
  obtain ⟨nodup, draws⟩ := runs sown sower m reachable rfl
  obtain ⟨n, k, s, nth, place, mixed, source⟩ := draws (by decide) 0 t station found phase
  obtain rfl : n = 0 := Nat.succ.inj (nth.symm.trans attempt)
  rw [(reachable.staffed.member 0 t found).2, made] at place
  obtain rfl : k = 0 := place.unique (x := 1) ⟨rfl, rfl⟩
  have first : (SourceFactory.seeds 7 m.scene.made)[0]? =
      some (SourceFactory.mixedSeed 7 0 1) := by
    rw [SourceFactory.seeds_getElem?, made]
    rfl
  obtain rfl := Option.some.inj (mixed.symm.trans first)
  refine ⟨?_, m, t, station, reachable, found, phase, nodup (by rw [made]; decide), first, source⟩
  intro same
  exact absurd ((apart 0 1 1 2 (by decide) (by decide)).mp same).1 (by decide)

end Simulation

end SensorFleet
