import SessionPool.Proofs.Service

/-!
# What returns, upkeep and shutdown enter

The rows of entries of the functions by which sessions join a pool, come back to it, are weeded
out and are taken away when the pool is closed.
-/

set_option autoImplicit false

namespace SessionPool.Pool

/-! ## Weeding -/

/-- Some of the unused members are taken out, and the pool is no longer responsible for them. -/
def Weeded (p q : Pool) (gone : List Member) : Prop :=
  ∃ rest, p.idle.Perm (gone ++ rest) ∧ q = { p.drop gone.length with idle := rest }

theorem weeded_weedExpired (p : Pool) (now : Instant) :
    p.Weeded (p.weedExpired now).1 (p.weedExpired now).2 :=
  ⟨_, (List.filter_append_perm _ _).symm, rfl⟩

theorem overripe_front (minSize : Nat) (maxIdle : Duration) (now : Instant) (size : Nat)
    (idle : List Member) : overripe minSize maxIdle now size idle <+: idle := by
  fun_induction overripe minSize maxIdle now size idle with
  | case1 => exact List.prefix_rfl
  | case2 size m rest _ ih => exact (List.prefix_cons_inj m).2 ih
  | case3 => exact List.nil_prefix

theorem weeded_weedOverripe (p : Pool) (now : Instant) :
    p.Weeded (p.weedOverripe now).1 (p.weedOverripe now).2 := by
  unfold weedOverripe
  split
  · exact ⟨p.idle, .refl _, by simp [drop]⟩
  · rename_i maxIdle _
    have h := List.prefix_iff_eq_append.1 (overripe_front p.minSize maxIdle now p.size p.idle)
    exact ⟨_, .of_eq h.symm, rfl⟩

theorem weeded_weedExcess (p : Pool) : p.Weeded p.weedExcess.1 p.weedExcess.2 := by
  have hn : p.weedExcess.2.length = min p.excess p.idle.length := by
    simp only [weedExcess, List.length_reverse, List.length_drop]
    omega
  have hp : p.idle.Perm ((p.idle.drop (p.idle.length - min p.excess p.idle.length)).reverse ++
      p.idle.take (p.idle.length - min p.excess p.idle.length)) := by
    refine List.Perm.trans ?_ ((List.reverse_perm _).symm.append_right _)
    refine List.Perm.trans (.of_eq ?_) List.perm_append_comm
    exact (List.take_append_drop _ p.idle).symm
  refine ⟨_, hp, ?_⟩
  rw [hn]
  rfl

namespace Entries

variable {now : Instant} {l : Line} {p : Pool} {m : Member}

/-! ## Sessions that were opened -/

theorem takeOver (elapsed : Duration) :
    Entries now l p (.room + .ofSpare [m]) (p.takeOver m elapsed).1
      (.won (p.takeOver m elapsed).2) := by
  unfold Pool.takeOver
  dsimp only
  split
  · exact (countOpened elapsed).trans discard
  · exact countOpened elapsed

theorem releaseRoom (waiter : Option Nat) (e : PoolError) :
    Entries now .changing p .room (p.releaseRoom waiter e) 0 := by
  cases waiter with
  | none => exact Entry.unreserve.entries
  | some ticket =>
    have hf : Entries now .changing p.unreserve 0 _ 0 := (Entry.fail ticket e).entries
    exact Entry.unreserve.entries.trans hf

theorem vacateRoom : Entries now l p .room p.vacateRoom 0 := Entry.unreserve.entries.trans topUp

/-! ## Sessions that come back -/

theorem drop_one : Entries now l p (.ofCounted [m]) (p.drop 1) (.ofSpare [m]) :=
  (Entry.drop [m]).entries

theorem receive (server : Server) :
    Entries now l p (.ofCounted [m]) (p.receive server m now).1
      (if (p.receive server m now).2.2 then .ofCounted [(p.receive server m now).2.1]
        else .ofSpare [(p.receive server m now).2.1]) := by
  have use : Entries now l p 0 (p.countUse m now) 0 := by
    unfold Pool.countUse
    split
    · exact count _
    · exact .refl
  unfold Pool.receive
  dsimp only
  split
  · exact use.along.trans drop_one
  · split
    · refine use.along.trans (Entries.trans ?_ drop_one)
      split
      · exact (count _).along
      · exact .refl
    · exact use.along

theorem returnLater : Entries now l p (.ofCounted [m]) (p.returnLater m) 0 := by
  unfold Pool.returnLater
  rcases p.crew.dispatch_cases (.restore m) with ⟨-, h⟩ | ⟨-, h⟩ <;> rw [h]
  · exact drop_one.trans (Entry.leave (p := p.drop 1) m).entries
  · exact (Entry.queueTask (t := .restore m) rfl).entries

theorem forget : Entries now l p (.ofCounted [m]) p.forget 0 :=
  (drop_one.trans (Entry.lose [m]).entries).trans topUp

theorem breakOff : Entries now l p (.ofCounted [m]) (p.breakOff m) 0 :=
  (drop_one.trans topUp.along).trans (Entry.leave m).entries

/-- A member is given up, and another one may be opened in its place. -/
theorem replace : Entries now l p (.ofCounted [m]) (p.discard m).topUp 0 := discard.trans topUp

/-! ## Weeding -/

theorem weeded {q : Pool} {gone : List Member} (h : p.Weeded q gone) :
    Entries now l p 0 q (.ofSpare gone) := by
  obtain ⟨rest, hp, rfl⟩ := h
  exact (Entry.unpark hp).entries.trans (Entry.drop (p := { p with idle := rest }) gone).entries

theorem weed : Entries now l p 0 (p.weed now).1 (.ofSpare (p.weed now).2) := by
  unfold Pool.weed
  dsimp only
  rw [Stake.ofSpare_append, Stake.ofSpare_append]
  have expired : Entries now l p 0 _ _ := weeded (p.weeded_weedExpired now)
  have old : Entries now l _ 0 _ _ := weeded ((p.weedExpired now).1.weeded_weedOverripe now)
  exact (expired.trans old.gain).trans (weeded (weeded_weedExcess _)).gain

theorem maintain : Entries now l p 0 (p.maintain now) 0 := by
  unfold Pool.maintain
  split
  · exact .refl
  · exact ((Entry.expire.entries.trans weed).trans (closeAll _ _)).trans topUp

/-! ## Probes -/

theorem pickProbe :
    Entries now l p 0 p.pickProbe.1 (.ofCounted p.pickProbe.2.toList) := by
  unfold Pool.pickProbe
  split
  · exact .refl
  · cases hi : p.idle with
    | nil =>
      have h : p.idle.Perm ([] ++ []) := .of_eq hi
      exact (Entry.unpark h).entries
    | cons m rest =>
      have h : p.idle.Perm ([m] ++ rest) := .of_eq hi
      exact (Entry.unpark h).entries

/-! ## Shutdown -/

theorem shut : Entries now .changing p 0 p.shut.1 (.ofSpare p.shut.2) := by
  have h : Entries now .changing p 0 _ (.ofSpare p.idle) :=
    weeded ⟨[], .of_eq (List.append_nil p.idle).symm, rfl⟩
  refine h.trans (Entries.along (Entries.trans (Entry.failAll .closed).entries ?_))
  exact aside rfl rfl

theorem dispose (t : Task Member) : Entries now .changing p (.ofTask t) (p.dispose t) 0 := by
  cases t with
  | add waiter => exact releaseRoom waiter .closed
  | restore m => exact drop_one.trans (Entry.lose [m]).entries
  | close m => exact (Entry.lose [m]).entries
  | maintain => exact .refl

end Entries

/-! ## Members that are free again -/

namespace Row

variable {now : Instant} {p : Pool} {m : Member}

theorem join (elapsed : Duration) :
    Row now p (.room + .ofSpare [m]) (p.join m elapsed now) 0 :=
  deliver.after fun _ => .countOpened elapsed

/-- A member that came back, whatever it turned out to be, is no longer in hand. -/
theorem settle (f : Fitness) : Row now p (.ofCounted [m]) (p.settle m now f) 0 := by
  cases f with
  | fit =>
    unfold Pool.settle
    dsimp only
    split
    · exact .changing (.replace (m := touch m now))
    · split
      · exact .changing (.discard (m := touch m now))
      · exact deliver (m := touch m now)
  | unfit =>
    have counted : Entries now .changing p 0 p.countUnfit 0 := .count _
    exact .changing (counted.along.trans (.replace (m := m.inStage .broken)))
  | lost =>
    have counted : Entries now .changing p 0 p.countLost.countUnfit 0 :=
      (Entries.count _).trans (.count _)
    exact .changing (counted.along.trans (.replace (m := m.inStage .broken)))

theorem judge (health : Health) :
    Row now p (.ofCounted [m]) (p.judge m health now) 0 := by
  unfold Pool.judge
  split
  · exact deliver
  · have counted : Entries now .changing p 0 p.countLost 0 := .count _
    exact .changing (counted.along.trans (.replace (m := m.inStage .broken)))

end Row

/-! ## Size -/

/-- A change of the size is entered after the new sizes, which must be valid. -/
theorem resize_entries {now : Instant} {l : Line} {p q : Pool} {minSize : Nat}
    {maxSize : Option Nat} (h : p.resize minSize maxSize = .ok q) :
    ∃ lo hi, Entries now l { p with minSize := lo, maxSize := hi } 0 q 0 := by
  unfold Pool.resize at h
  split at h
  · cases h
  · rename_i lo hi _
    refine ⟨lo, hi, ?_⟩
    split at h
    · cases h
    · have hc : Entries now l { p with minSize := lo, maxSize := hi } 0 _ 0 :=
        (Entries.weeded (weeded_weedExcess _)).trans (.closeAll _ _)
      dsimp only at h
      split at h
      · cases h
        exact hc.trans .topUp
      · cases h
        refine ((hc.trans Entry.countLive.entries).trans ?_).trans .topUp
        exact .aside rfl rfl

theorem Balanced.resize {p q : Pool} {k : Stake} {minSize : Nat} {maxSize : Option Nat}
    (h : p.Balanced k) (hq : p.resize minSize maxSize = .ok q) : q.Balanced k := by
  obtain ⟨lo, hi, he⟩ : ∃ lo hi, Entries .origin .still _ 0 q 0 := resize_entries hq
  have hp : Balanced { p with minSize := lo, maxSize := hi } (0 + k) :=
    (zero_add k).symm ▸ h.congr rfl
  exact zero_add k ▸ he.balanced hp

end SessionPool.Pool
