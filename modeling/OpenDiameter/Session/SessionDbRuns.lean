import OpenDiameter.Session.SessionDbMap

/-!
The calls of the session database one after the other.
-/

namespace OpenDiameter.Session

open OpenDiameter.Foundation OpenDiameter.Utility

variable {Data : Type}

namespace DiameterSessionDb

variable {db : DiameterSessionDb Data} {whole : ColorTree (Slot SessionKey Nat)} {fuel : Nat}

/-- Every call of the run compares and generates right in the database that it meets. -/
def RightCalls (fuel : Nat) (db : DiameterSessionDb Data) : List (DbCall Data) → Prop
  | [] => True
  | call :: calls => CallRight fuel db call ∧ ∀ next result,
      db.perform fuel call = some (next, result) → RightCalls fuel next calls

theorem performAll_implements (represents : Represents db whole) {calls : List (DbCall Data)}
    (enough : 2 * (whole.items.length + calls.length) + 1 < fuel)
    (right : RightCalls fuel db calls) :
    ∃ last results lastWhole, db.performAll fuel calls = some (last, results) ∧
      Represents last lastWhole ∧ MapRun (mapOf db whole) calls results (mapOf last lastWhole) := by
  induction calls generalizing db whole with
  | nil => exact ⟨db, [], whole, rfl, represents, .nil _⟩
  | cons call calls induction =>
    rw [List.length_cons] at enough
    rcases implements represents (by omega) right.1 with
      ⟨next, result, nextWhole, performed, nextRepresents, grown, step, _⟩
    rcases induction nextRepresents (by omega) (right.2 next result performed) with
      ⟨last, results, lastWhole, rest, lastRepresents, run⟩
    refine ⟨last, result :: results, lastWhole, ?_, lastRepresents, .cons step run⟩
    simp [performAll, performed, rest]

theorem mapOf_empty :
    mapOf (DiameterSessionDb.empty : DiameterSessionDb Data) .nil = fun _ => none := rfl

/-- In a run whose comparisons are right and whose generated counters are in use nowhere, the
database is a finite map from session ids. -/
theorem database_is_map {calls : List (DbCall Data)} (enough : 2 * calls.length + 1 < fuel)
    (right : RightCalls fuel .empty calls) :
    ∃ last results map, DiameterSessionDb.empty.performAll fuel calls = some (last, results) ∧
      MapRun (fun _ => none) calls results map := by
  have fits : 2 * ((.nil : ColorTree (Slot SessionKey Nat)).items.length + calls.length) + 1 <
      fuel := by
    rw [ColorTree.items]
    simpa using enough
  rcases performAll_implements .empty fits right with
    ⟨last, results, lastWhole, performed, _, run⟩
  rw [mapOf_empty] at run
  exact ⟨last, results, mapOf last lastWhole, performed, run⟩

theorem database_is_map_one_id :
    ∃ last results map,
      DiameterSessionDb.empty.performAll 6 [.add ⟨5, 7⟩ ⟨⟨[97], [120]⟩, .nullCounter⟩ true,
        .lookup ⟨⟨[97], [120]⟩, ⟨5, 8⟩⟩] = some (last, results) ∧
      MapRun (fun _ => none) [.add ⟨5, 7⟩ ⟨⟨[97], [120]⟩, .nullCounter⟩ true,
        .lookup ⟨⟨[97], [120]⟩, ⟨5, 8⟩⟩] results map := by
  have itself : RbTreeTree.ComparesRight SessionKey.comparison ⟨[97], [120]⟩ ⟨[97], [120]⟩ :=
    SessionKey.comparesRight_iff.mpr (.inl rfl)
  apply database_is_map (by decide)
  refine ⟨⟨.of_root itself ?_, ?_⟩, ?_⟩
  · intro data found
    cases found
  · intro _ node found
    cases found
  · intro next result performed
    have root : ((DiameterSessionDb.empty : DiameterSessionDb Bool).perform 6
        (.add ⟨5, 7⟩ ⟨⟨[97], [120]⟩, .nullCounter⟩ true)).bind
          (fun performed => performed.1.tree.data performed.1.tree.root) =
        some ⟨⟨[97], [120]⟩, 0⟩ := rfl
    rw [performed, Option.bind_some] at root
    refine ⟨⟨.of_root itself ?_, trivial⟩, fun _ _ _ => trivial⟩
    intro data found
    rw [root] at found
    cases found
    rfl

/-- The third id turns the tree at its root, and the first is not found below it. -/
theorem added_id_not_found :
    ∃ last results,
      DiameterSessionDb.empty.performAll 20 [.add ⟨5, 7⟩ ⟨⟨[98], [119]⟩, ⟨0, 1⟩⟩ 10,
        .add ⟨5, 7⟩ ⟨⟨[97], [120]⟩, ⟨0, 1⟩⟩ 20, .add ⟨5, 7⟩ ⟨⟨[97], [122]⟩, ⟨0, 1⟩⟩ 30,
        .lookup ⟨⟨[98], [119]⟩, ⟨0, 1⟩⟩] = some (last, results) ∧
      ∀ map, ¬ MapRun (fun _ => none) [.add ⟨5, 7⟩ ⟨⟨[98], [119]⟩, ⟨0, 1⟩⟩ 10,
        .add ⟨5, 7⟩ ⟨⟨[97], [120]⟩, ⟨0, 1⟩⟩ 20, .add ⟨5, 7⟩ ⟨⟨[97], [122]⟩, ⟨0, 1⟩⟩ 30,
        .lookup ⟨⟨[98], [119]⟩, ⟨0, 1⟩⟩] results map := by
  refine ⟨_, [.added (some ⟨⟨[98], [119]⟩, ⟨0, 1⟩⟩), .added (some ⟨⟨[97], [120]⟩, ⟨0, 1⟩⟩),
    .added (some ⟨⟨[97], [122]⟩, ⟨0, 1⟩⟩), .found none], rfl, ?_⟩
  intro map run
  cases run with
  | cons first run =>
    cases run with
    | cons second run =>
      cases run with
      | cons third run =>
        cases run with
        | cons fourth run =>
          have found := fourth.eq_found
          rw [third.eq_update, second.eq_update, first.eq_update] at found
          simp [Function.update] at found

end DiameterSessionDb

end OpenDiameter.Session
