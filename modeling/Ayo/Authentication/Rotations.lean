/- digest: Token stores in which every rotation can be written. -/

import Ayo.Authentication.Tokens

namespace Ayo.Authentication.Rotations

open Kernel.UnitOfWork Kernel.KeyedTable Kernel.Updates Core.Values RateLimit.Models Tokens

structure TokenSound (store : TokenStore) : Prop where
  apart : ∀ family ∈ store.families.rows, ∀ rotation ∈ store.rotations.rows,
    rotation.tokenHash ≠ family.currentTokenHash
  below : ∀ rotation ∈ store.rotations.rows, ∀ family ∈ store.families.rows,
    family.familyId = rotation.familyId → rotation.rotationCounter < family.rotationCounter
  known : ∀ rotation ∈ store.rotations.rows, ∃ family ∈ store.families.rows,
    family.familyId = rotation.familyId

structure HashFresh (store : TokenStore) (hash : Bytes) : Prop where
  sessions : ∀ session ∈ store.sessions.rows, session.tokenHash ≠ hash
  families : ∀ family ∈ store.families.rows, family.currentTokenHash ≠ hash
  rotations : ∀ rotation ∈ store.rotations.rows, rotation.tokenHash ≠ hash

theorem empty_tokenSound : TokenSound .empty := by
  refine ⟨?_, ?_, ?_⟩
  · intro family held
    cases held
  · intro rotation held
    cases held
  · intro rotation held
    cases held

section

variable {s t : TokenStore} {time : Instant} {familyId rotationId : Uuid} {result : RotationResult}
  {family : TokenFamily} {replacement : Bytes}

theorem TokenSound.of_families (sound : TokenSound s) (rotations : t.rotations = s.rotations)
    (from' : ∀ family ∈ t.families.rows, ∃ old ∈ s.families.rows,
      old.familyId = family.familyId ∧ old.rotationCounter = family.rotationCounter ∧
        old.currentTokenHash = family.currentTokenHash)
    (into : ∀ old ∈ s.families.rows, ∃ family ∈ t.families.rows,
      family.familyId = old.familyId) : TokenSound t := by
  refine ⟨?_, ?_, ?_⟩
  · intro family held rotation consumed
    rw [rotations] at consumed
    obtain ⟨old, present, _, _, current⟩ := from' family held
    rw [← current]
    exact sound.apart old present rotation consumed
  · intro rotation consumed family held same
    rw [rotations] at consumed
    obtain ⟨old, present, key, counter, _⟩ := from' family held
    rw [← counter]
    exact sound.below rotation consumed old present (key.trans same)
  · intro rotation consumed
    rw [rotations] at consumed
    obtain ⟨old, present, key⟩ := sound.known rotation consumed
    obtain ⟨family, held, same⟩ := into old present
    exact ⟨family, held, same.trans key⟩

theorem TokenSound.of_same (sound : TokenSound s) (families : t.families = s.families)
    (rotations : t.rotations = s.rotations) : TokenSound t := by
  refine sound.of_families rotations ?_ ?_
  · intro family held
    exact ⟨family, families ▸ held, rfl, rfl, rfl⟩
  · intro family held
    exact ⟨family, families ▸ held, rfl⟩

theorem TokenSound.after_revokeFamilies (sound : TokenSound s) {chosen : TokenFamily → Prop}
    [DecidablePred chosen] {count : Nat}
    (ran : revokeFamilies chosen time s = .ok (count, t)) : TokenSound t := by
  obtain ⟨rotations, _, rows⟩ := revokeFamilies_ok ran
  let change := updateWhere (fun family : TokenFamily => chosen family ∧ family.status = .active)
    (.revoke time)
  have key : ∀ old, (change old).familyId = old.familyId := updateWhere_keeps fun _ => rfl
  have counter : ∀ old, (change old).rotationCounter = old.rotationCounter :=
    updateWhere_keeps fun _ => rfl
  have current : ∀ old, (change old).currentTokenHash = old.currentTokenHash :=
    updateWhere_keeps fun _ => rfl
  refine sound.of_families rotations ?_ ?_
  · intro family held
    rw [rows] at held
    obtain ⟨old, present, rfl⟩ := List.mem_map.1 held
    exact ⟨old, present, (key old).symm, (counter old).symm, (current old).symm⟩
  · intro old present
    have mem : change old ∈ t.families.rows := rows ▸ List.mem_map_of_mem present
    exact ⟨change old, mem, key old⟩

theorem TokenSound.after_createFamily (sound : TokenSound s)
    {identityId sessionId : Uuid} {tokenHash : Bytes} {createdAt expiresAt : DateTime}
    {u : Unit} (fresh : ∀ rotation ∈ s.rotations.rows, rotation.tokenHash ≠ tokenHash)
    (ran : createFamily familyId identityId sessionId tokenHash createdAt expiresAt s =
      .ok (u, t)) : TokenSound t := by
  obtain ⟨rotations, _, family, named, _, current, _, rows⟩ := createFamily_ok ran
  have new : ∀ old ∈ s.families.rows, old.familyId ≠ family.familyId := by
    intro old present same
    exact Table.apart_of_rows_append rows old present (Row.clash_of_key same)
  refine ⟨?_, ?_, ?_⟩
  · intro other held rotation consumed
    rw [rotations] at consumed
    rw [rows] at held
    rcases List.mem_append.1 held with present | last
    · exact sound.apart other present rotation consumed
    · rw [List.mem_singleton.1 last, current]
      exact fresh rotation consumed
  · intro rotation consumed other held same
    rw [rotations] at consumed
    rw [rows] at held
    rcases List.mem_append.1 held with present | last
    · exact sound.below rotation consumed other present same
    · obtain ⟨old, present, key⟩ := sound.known rotation consumed
      rw [List.mem_singleton.1 last] at same
      exact absurd (key.trans same.symm) (new old present)
  · intro rotation consumed
    rw [rotations] at consumed
    obtain ⟨old, present, key⟩ := sound.known rotation consumed
    exact ⟨old, rows ▸ List.mem_append_left _ present, key⟩

theorem TokenSound.after_detectReplay (sound : TokenSound s) (held : family ∈ s.families.rows)
    (ran : detectReplay family time s = .ok (result, t)) : TokenSound t := by
  obtain ⟨_, rotations, rows, _⟩ := detectReplay_ok ran
  refine sound.of_families rotations ?_ ?_
  · intro other mem
    rw [rows] at mem
    obtain ⟨rfl, _⟩ | ⟨present, _⟩ := Table.mem_replaced.1 mem
    · exact ⟨family, held, rfl, rfl, rfl⟩
    · exact ⟨other, present, rfl, rfl, rfl⟩
  · intro old present
    rw [rows]
    by_cases same : Row.key old = Row.key (family.replayed time)
    · exact ⟨_, Table.mem_replaced.2 (.inl ⟨rfl, old, present, same⟩), same.symm⟩
    · exact ⟨old, Table.mem_replaced.2 (.inr ⟨present, same⟩), rfl⟩

theorem TokenSound.after_consumeToken (sound : TokenSound s) (held : family ∈ s.families.rows)
    (fresh : HashFresh s replacement)
    (ran : consumeToken rotationId family replacement time s = .ok (result, t)) : TokenSound t := by
  obtain ⟨_, rotations, families, _⟩ := consumeToken_ok ran
  have cases' : ∀ other ∈ t.families.rows, other = family.rotated replacement ∨
      (other ∈ s.families.rows ∧ other.familyId ≠ family.familyId) := by
    intro other mem
    rw [families] at mem
    obtain ⟨rotated, _⟩ | ⟨present, apart⟩ := Table.mem_replaced.1 mem
    · exact .inl rotated
    · exact .inr ⟨present, apart⟩
  refine ⟨?_, ?_, ?_⟩
  · intro other mem rotation consumed
    rw [rotations] at consumed
    rcases List.mem_append.1 consumed with earlier | last
    · obtain rfl | ⟨present, _⟩ := cases' other mem
      · exact fresh.rotations rotation earlier
      · exact sound.apart other present rotation earlier
    · rw [List.mem_singleton.1 last]
      intro same
      have same : family.currentTokenHash = other.currentTokenHash := same
      obtain rfl | ⟨present, apart⟩ := cases' other mem
      · exact fresh.families family held same
      · have one : family = other :=
          s.families.eq_of_clash held present (.inr same)
        exact apart (one ▸ rfl)
  · intro rotation consumed other mem same
    rw [rotations] at consumed
    rcases List.mem_append.1 consumed with earlier | last
    · obtain rfl | ⟨present, _⟩ := cases' other mem
      · exact Nat.lt_succ_of_lt (sound.below rotation earlier family held same)
      · exact sound.below rotation earlier other present same
    · rw [List.mem_singleton.1 last] at same ⊢
      obtain rfl | ⟨_, apart⟩ := cases' other mem
      · exact Nat.lt_succ_self _
      · exact absurd same apart
  · intro rotation consumed
    rw [rotations] at consumed
    have source : ∃ old ∈ s.families.rows, old.familyId = rotation.familyId := by
      rcases List.mem_append.1 consumed with earlier | last
      · exact sound.known rotation earlier
      · rw [List.mem_singleton.1 last]
        exact ⟨family, held, rfl⟩
    obtain ⟨old, present, key⟩ := source
    rw [families]
    by_cases same : Row.key old = Row.key (family.rotated replacement)
    · exact ⟨_, Table.mem_replaced.2 (.inl ⟨rfl, old, present, same⟩), same.symm.trans key⟩
    · exact ⟨old, Table.mem_replaced.2 (.inr ⟨present, same⟩), key⟩

theorem TokenSound.after_rotate (sound : TokenSound s)
    {presented : Bytes} {time : DateTime} (fresh : HashFresh s replacement)
    (ran : rotate rotationId familyId presented replacement time s = .ok (result, t)) :
    TokenSound t := by
  obtain ⟨family, found, ⟨_, rfl⟩ | ⟨_, _, ⟨_, consumes⟩ | ⟨_, _, replays⟩⟩⟩ := rotate_ok ran
  · exact sound
  · exact sound.after_consumeToken (Table.mem_of_find found) fresh consumes
  · exact sound.after_detectReplay (Table.mem_of_find found) replays

end

section

variable {store : TokenStore} {family : TokenFamily} {replacement : Bytes}

theorem TokenSound.exists_consumed (sound : TokenSound store) (rotationId : Uuid)
    (held : family ∈ store.families.rows)
    (unused : ∀ rotation ∈ store.rotations.rows, rotation.rotationId ≠ rotationId)
    (fresh : HashFresh store replacement) (time : Instant) :
    ∃ result t, consumeToken rotationId family replacement time store = .ok (result, t) := by
  let row : TokenRotation :=
    { rotationId, familyId := family.familyId, tokenHash := family.currentTokenHash,
      rotationCounter := family.rotationCounter, consumedAt := time }
  have free : ∀ other ∈ store.rotations.rows, ¬ Row.clash other row := by
    rintro other mem (same | same | same)
    · exact unused other mem same
    · exact sound.apart family held other mem same
    · obtain ⟨ofFamily, counter⟩ := Prod.mk.inj same
      have below := sound.below other mem family held ofFamily.symm
      have counter : other.rotationCounter = family.rotationCounter := counter
      omega
  obtain ⟨rotations, inserted⟩ := Table.exists_inserted free
  obtain ⟨families, replaced⟩ : ∃ families : Table TokenFamily,
      families.rows = store.families.replaced (family.rotated replacement) := by
    have distinct : (store.families.replaced (family.rotated replacement)).Pairwise
        fun a b => ¬ Row.clash a b := by
      refine List.pairwise_map.2 (List.Pairwise.imp_of_mem ?_ store.families.distinct)
      intro a b first second apart
      have differ : Row.key a = Row.key (family.rotated replacement) →
          Row.key b ≠ Row.key (family.rotated replacement) := fun one two =>
        apart (Row.clash_of_key (one.trans two.symm))
      by_cases one : Row.key a = Row.key (family.rotated replacement)
      · rw [if_pos one, if_neg (differ one)]
        rintro (same | same)
        · exact differ one same.symm
        · exact fresh.families b second same.symm
      · by_cases two : Row.key b = Row.key (family.rotated replacement)
        · rw [if_neg one, if_pos two]
          rintro (same | same)
          · exact one same
          · exact fresh.families a first same
        · rwa [if_neg one, if_neg two]
    exact ⟨⟨_, distinct⟩, rfl⟩
  obtain ⟨sessions, rewritten⟩ : ∃ sessions : Table SessionRecord,
      sessions.rows = store.sessions.rows.map
        (updateWhere (fun session => session.sessionId = family.sessionId)
          (.rotated replacement (family.rotationCounter + 1))) := by
    have distinct : (store.sessions.rows.map
        (updateWhere (fun session => session.sessionId = family.sessionId)
          (.rotated replacement (family.rotationCounter + 1)))).Pairwise
        fun a b => ¬ Row.clash a b := by
      refine List.pairwise_map.2 (List.Pairwise.imp_of_mem ?_ store.sessions.distinct)
      intro a b first second apart
      unfold updateWhere
      by_cases one : a.sessionId = family.sessionId
      · by_cases two : b.sessionId = family.sessionId
        · exact absurd (.inl (one.trans two.symm)) apart
        · rw [if_pos one, if_neg two]
          rintro (same | same)
          · exact apart (.inl same)
          · exact fresh.sessions b second same.symm
      · by_cases two : b.sessionId = family.sessionId
        · rw [if_neg one, if_pos two]
          rintro (same | same)
          · exact apart (.inl same)
          · exact fresh.sessions a first same
        · rwa [if_neg one, if_neg two]
    exact ⟨⟨_, distinct⟩, rfl⟩
  refine ⟨(family.rotated replacement).result .rotated, ⟨families, rotations, sessions⟩, ?_⟩
  unfold consumeToken
  refine get_bind_ok.2 (demand_bind_ok.2 ⟨rotations, Table.insert?_eq_some.2 inserted, ?_⟩)
  refine demand_bind_ok.2 ⟨families, Table.replace?_eq_some.2 replaced, ?_⟩
  refine demand_bind_ok.2 ⟨sessions, Table.rewrite?_eq_some.2 rewritten, ?_⟩
  exact put_bind_ok.2 (pure_ok.2 ⟨rfl, rfl⟩)

theorem TokenSound.exists_rotated (sound : TokenSound store) {rotationId familyId : Uuid}
    {presented : Bytes} (found : store.families.find familyId = some family)
    (proper : presented.length = 32 ∧ replacement.length = 32)
    (unused : ∀ rotation ∈ store.rotations.rows, rotation.rotationId ≠ rotationId)
    (fresh : HashFresh store replacement) {time : DateTime} (aware : time.aware = true) :
    ∃ result t, rotate rotationId familyId presented replacement time store = .ok (result, t) := by
  have begins : ∀ {result : RotationResult} {t : TokenStore},
      (if family.status ≠ .active ∨ family.expiresAt ≤ time.instant then
          (pure (family.result .denied) : Transaction TokenStore Failure RotationResult)
        else if presented = family.currentTokenHash then
          consumeToken rotationId family replacement time.instant
        else if store.Consumed familyId presented then
          detectReplay family time.instant
        else pure (family.result .denied)) store = .ok (result, t) →
      rotate rotationId familyId presented replacement time store = .ok (result, t) := by
    intro result t ends
    unfold rotate
    exact require_bind_ok.2 ⟨aware, require_bind_ok.2 ⟨proper, get_bind_ok.2
      (demand_bind_ok.2 ⟨family, found, ends⟩)⟩⟩
  by_cases unusable : family.status ≠ .active ∨ family.expiresAt ≤ time.instant
  · exact ⟨_, _, begins (ite_ok.2 (.inl ⟨unusable, pure_ok.2 ⟨rfl, rfl⟩⟩))⟩
  by_cases old : presented = family.currentTokenHash
  · obtain ⟨result, t, consumes⟩ := sound.exists_consumed rotationId
      (Table.mem_of_find found) unused fresh time.instant
    exact ⟨result, t, begins (ite_ok.2 (.inr ⟨unusable, ite_ok.2 (.inl ⟨old, consumes⟩)⟩))⟩
  by_cases consumed : store.Consumed familyId presented
  · obtain ⟨result, t, replays⟩ := exists_replayDetected (Table.mem_of_find found) time.instant
    exact ⟨result, t, begins (ite_ok.2 (.inr ⟨unusable, ite_ok.2 (.inr ⟨old,
      ite_ok.2 (.inl ⟨consumed, replays⟩)⟩)⟩))⟩
  · exact ⟨_, _, begins (ite_ok.2 (.inr ⟨unusable, ite_ok.2 (.inr ⟨old,
      ite_ok.2 (.inr ⟨consumed, pure_ok.2 ⟨rfl, rfl⟩⟩)⟩)⟩))⟩

end
end Ayo.Authentication.Rotations
