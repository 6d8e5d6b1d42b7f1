import MicroBng.Radius.Request

/-!
# The servers after a reload

`load_config` marks every server of `serv_list`, adds those of the `server` options, removes what is
still marked, and adds those of the old options. `__add_server` takes a configured server for one
that is in the list if address and ports are the same, and then only clears its mark.

The address it compares is the IPv4 address, which is 0 for every IPv6 server. So two IPv6 servers
with the same ports are one server.

* `loadConfig_iff`: the servers after a reload are those of the configuration, each once, just if
  the first server that a configured one is taken for has its address
-/

namespace Radius

/-! ## Model -/

/-- What `__add_server` copies to a server that is already there. -/
structure Settings where
  failTimeout : Int
  reqLimit : Int
  maxFail : Int
  bindDefault : Bool
  bindDevice : List UInt8

/-- A `server` option as `parse_server1` or `parse_server2` reads it, with `inet_pton`'s address. -/
structure ServerOpt where
  addr : Addr
  secret : List UInt8
  authPort : Nat
  acctPort : Nat
  weight : Nat
  backup : Bool
  settings : Settings

/-- An entry of `serv_list`. -/
structure Entry where
  conf : ServerConf
  settings : Settings
  needFree : Bool

/-- `add_server` up to `__add_server`. -/
def ServerOpt.entry (o : ServerOpt) : Entry where
  conf :=
    { place := match o.addr with
        | .v4 a => .v4 a
        | .v6 a => .v6 a
      secret := o.secret
      authPort := o.authPort
      acctPort := o.acctPort
      weight := o.weight
      backup := o.backup }
  settings := o.settings
  needFree := false

/-- What `__add_server` compares: `addr`, `auth_port` and `acct_port`. -/
def Entry.key (s : Entry) : UInt32 × Nat × Nat :=
  (s.conf.place.addr, s.conf.authPort, s.conf.acctPort)

/-- `__add_server`. -/
def addServer (s : Entry) : List Entry → List Entry
  | [] => [s]
  | s1 :: l =>
    if s1.key = s.key then { s1 with settings := s.settings, needFree := false } :: l
    else s1 :: addServer s l

/-- `__add_server` for one server after the other. -/
def addServers (l os : List Entry) : List Entry := os.foldl (fun l s => addServer s l) l

/-- The options `auth-server` and `acct-server`: address, port and secret. -/
structure OldOpt where
  addr : UInt32
  port : Nat
  secret : List UInt8

/-- An entry of `add_server_old`: nothing sets `ipv4`. -/
def oldEntry (settings : Settings) (o : OldOpt) (authPort acctPort : Nat) : Entry :=
  ⟨⟨.old o.addr, o.secret, authPort, acctPort, 0, false⟩, settings, false⟩

/-- What the section `radius` says about servers. -/
structure ServerSection where
  servers : List ServerOpt
  settings : Settings
  auth : Option OldOpt
  acct : Option OldOpt

/-- The servers that `add_server_old` gives to `__add_server`. -/
def ServerSection.old (sect : ServerSection) : List Entry :=
  match sect.auth, sect.acct with
  | none, _ => []
  | some auth, none => [oldEntry sect.settings auth auth.port 0]
  | some auth, some acct =>
    if auth.addr = acct.addr ∧ auth.secret = acct.secret then
      [oldEntry sect.settings auth auth.port acct.port]
    else
      oldEntry sect.settings auth auth.port 0 ::
        if acct.addr ≠ 0 then [oldEntry sect.settings acct 0 acct.port] else []

/-- `load_config`, as far as the list of servers goes. -/
def loadConfig (sect : ServerSection) (list : List Entry) : List Entry :=
  let list := list.map fun s => { s with needFree := true }
  let list := addServers list (sect.servers.map ServerOpt.entry)
  let list := list.filter fun s => !s.needFree
  addServers list sect.old

/-! ## What is configured -/

/-- Address and ports as they are configured. -/
def Entry.triple (s : Entry) : Addr × Nat × Nat :=
  (s.conf.place.given, s.conf.authPort, s.conf.acctPort)

/-- The configured servers, in the order in which they are added. -/
def ServerSection.configured (sect : ServerSection) : List Entry :=
  sect.servers.map ServerOpt.entry ++ sect.old

/-- The first server that a server with this key is taken for. -/
def first (k : UInt32 × Nat × Nat) (l : List Entry) : Option Entry := l.find? fun s => s.key = k

/-- The servers of the list that a `server` option is taken for. -/
def ServerSection.kept (sect : ServerSection) (list : List Entry) : List Entry :=
  list.filter fun s => s.key ∈ (sect.servers.map ServerOpt.entry).map Entry.key

/-- The first server that a configured one is taken for has its address. -/
def Told (sect : ServerSection) (list : List Entry) : Prop :=
  ∀ o ∈ sect.configured, ∀ s, first o.key (sect.kept list ++ sect.configured) = some s →
    s.triple = o.triple

theorem Entry.key_of_triple {s s' : Entry} (h : s.triple = s'.triple) : s.key = s'.key := by
  obtain ⟨⟨p, _⟩, _⟩ := s
  obtain ⟨⟨p', _⟩, _⟩ := s'
  cases p <;> cases p' <;> simp_all [triple, key, ServerAddr.given, ServerAddr.addr]

theorem Entry.triple_of_conf {s s' : Entry} (h : s.conf = s'.conf) : s.triple = s'.triple := by
  rw [triple, h, triple]

/-! ## Adding the servers -/

variable {sect : ServerSection} {list l done os : List Entry} {o s : Entry}
  {k : UInt32 × Nat × Nat}

theorem first_append (k : UInt32 × Nat × Nat) (l l' : List Entry) :
    first k (l ++ l') = (first k l).or (first k l') :=
  List.find?_append

theorem first_eq_none (h : ∀ s ∈ l, s.key ≠ k) : first k l = none :=
  List.find?_eq_none.2 fun s hs => by simpa using h s hs

theorem addServer_cases (s : Entry) (l : List Entry) :
    (∃ l₁ s1 l₂, l = l₁ ++ s1 :: l₂ ∧ (∀ x ∈ l₁, x.key ≠ s.key) ∧ s1.key = s.key ∧
      addServer s l = l₁ ++ { s1 with settings := s.settings, needFree := false } :: l₂) ∨
    (∀ x ∈ l, x.key ≠ s.key) ∧ addServer s l = l ++ [s] := by
  induction l with
  | nil => exact .inr ⟨by simp, rfl⟩
  | cons s1 l ih =>
    by_cases h : s1.key = s.key
    · exact .inl ⟨[], s1, l, rfl, by simp, h, by simp [addServer, h]⟩
    · rcases ih with ⟨l₁, s2, l₂, hl, hbefore, hsame, hadd⟩ | ⟨hnone, hadd⟩
      · exact .inl ⟨s1 :: l₁, s2, l₂, by simp [hl], by simp_all, hsame, by simp [addServer, h, hadd]⟩
      · exact .inr ⟨by simp_all, by simp [addServer, h, hadd]⟩

/-- `__add_server` finds the same servers as appending would, up to mark and settings. -/
theorem first_addServer (k : UInt32 × Nat × Nat) (o : Entry) (l : List Entry) :
    (first k (addServer o l)).map Entry.conf = (first k (l ++ [o])).map Entry.conf := by
  rcases addServer_cases o l with ⟨l₁, s1, l₂, rfl, -, hsame, hadd⟩ | ⟨-, hadd⟩ <;> rw [hadd]
  have hkey : ({ s1 with settings := o.settings, needFree := false } : Entry).key = o.key := hsame
  simp only [first_append, Option.map_or, List.append_assoc, List.cons_append]
  by_cases hk : o.key = k <;> simp [first, hkey, hsame, hk]

theorem first_addServers (k : UInt32 × Nat × Nat) (l os : List Entry) :
    (first k (addServers l os)).map Entry.conf = (first k (l ++ os)).map Entry.conf := by
  induction os generalizing l with
  | nil => simp [addServers]
  | cons o os ih =>
    have h := ih (addServer o l)
    rw [first_append, Option.map_or, first_addServer, ← Option.map_or, ← first_append] at h
    simpa [addServers] using h

theorem first_marked (k : UInt32 × Nat × Nat) (l : List Entry) :
    (first k (l.map fun s => { s with needFree := true })).map Entry.conf =
      (first k l).map Entry.conf := by
  simp only [first, List.find?_map, Option.map_map]
  rfl

/-- While the servers of `done` are added, just their keys are unmarked, each at its first place. -/
structure Adding (done l : List Entry) : Prop where
  before : l.Pairwise fun s' s => s.needFree = false → s'.key ≠ s.key
  only : ∀ s ∈ l, s.needFree = false → s.key ∈ done.map Entry.key
  all : ∀ k ∈ done.map Entry.key, ∃ s ∈ l, s.needFree = false ∧ s.key = k

theorem Adding.add (h : Adding done l) (ho : o.needFree = false) :
    Adding (done ++ [o]) (addServer o l) := by
  have hbefore := h.before
  have honly := h.only
  have hall := h.all
  rcases addServer_cases o l with ⟨l₁, s1, l₂, rfl, hother, hsame, hadd⟩ | ⟨hnone, hadd⟩
  · have hkey : ({ s1 with settings := o.settings, needFree := false } : Entry).key = o.key := hsame
    rw [hadd]
    simp only [List.pairwise_append, List.pairwise_cons, List.mem_cons] at hbefore
    obtain ⟨hl₁, ⟨hs1, hl₂⟩, hcross⟩ := hbefore
    refine ⟨?_, ?_, ?_⟩
    · simp only [List.pairwise_append, List.pairwise_cons, List.mem_cons]
      refine ⟨hl₁, ⟨fun y hy hfree => hkey ▸ hsame ▸ hs1 y hy hfree, hl₂⟩, fun x hx y hy => ?_⟩
      rcases hy with rfl | hy
      · exact fun _ => hkey ▸ hother x hx
      · exact hcross x hx y (.inr hy)
    · simp only [List.mem_append, List.mem_cons, List.map_append] at honly ⊢
      grind
    · simp only [List.mem_append, List.mem_cons, List.map_append] at hall ⊢
      grind
  · rw [hadd]
    refine ⟨?_, ?_, ?_⟩
    · simp only [List.pairwise_append, List.pairwise_singleton, List.mem_singleton]
      exact ⟨h.before, trivial, fun x hx y hy _ => hy ▸ hnone x hx⟩
    · simp only [List.mem_append, List.mem_singleton, List.map_append] at honly ⊢
      grind
    · simp only [List.mem_append, List.mem_singleton, List.map_append] at hall ⊢
      grind

theorem Adding.addAll (h : Adding done l) (hos : ∀ o ∈ os, o.needFree = false) :
    Adding (done ++ os) (addServers l os) := by
  induction os generalizing done l with
  | nil => simpa [addServers] using h
  | cons o os ih =>
    obtain ⟨ho, hos⟩ := List.forall_mem_cons.1 hos
    rw [List.append_cons]
    exact ih (h.add ho) hos

theorem adding_marked (list : List Entry) :
    Adding [] (list.map fun s => { s with needFree := true }) where
  before := List.pairwise_map.2 (List.pairwise_of_forall fun _ _ h => nomatch h)
  only := List.forall_mem_map.2 fun _ _ h => nomatch h
  all := by simp

theorem Adding.unmarked (h : Adding done l) : Adding done (l.filter fun s => !s.needFree) where
  before := h.before.filter _
  only := fun s hs hfree => h.only s (List.mem_filter.1 hs).1 hfree
  all := fun k hk => by
    obtain ⟨s, hs, hfree, hkey⟩ := h.all k hk
    exact ⟨s, List.mem_filter.2 ⟨hs, by simp [hfree]⟩, hfree, hkey⟩

theorem Adding.first_eq (h : Adding done l) (hs : s ∈ l) (hfree : s.needFree = false) :
    first s.key l = some s := by
  obtain ⟨l₁, l₂, rfl⟩ := List.append_of_mem hs
  have hbefore := h.before
  simp only [List.pairwise_append, List.mem_cons] at hbefore
  rw [first_append, first_eq_none fun x hx => hbefore.2.2 x hx s (.inl rfl) hfree]
  simp [first]

theorem addServers_unmarked (hl : ∀ s ∈ l, s.needFree = false)
    (hos : ∀ o ∈ os, o.needFree = false) : ∀ s ∈ addServers l os, s.needFree = false := by
  induction os generalizing l with
  | nil => exact hl
  | cons o os ih =>
    obtain ⟨ho, hos⟩ := List.forall_mem_cons.1 hos
    refine ih (fun s hs => ?_) hos
    change s ∈ addServer o l at hs
    rcases addServer_cases o l with ⟨l₁, s1, l₂, rfl, -, -, hadd⟩ | ⟨-, hadd⟩ <;> rw [hadd] at hs
    · simp only [List.mem_append, List.mem_cons] at hs hl
      grind
    · simp only [List.mem_append, List.mem_singleton] at hs
      grind

/-! ## The list after a reload -/

theorem option_unmarked (sect : ServerSection) :
    ∀ o ∈ sect.servers.map ServerOpt.entry, o.needFree = false :=
  List.forall_mem_map.2 fun _ _ => rfl

theorem old_unmarked (sect : ServerSection) : ∀ o ∈ sect.old, o.needFree = false := by
  grind [ServerSection.old, oldEntry]

/-- What `load_config` has kept and added before it comes to the old options. -/
theorem adding_options (sect : ServerSection) (list : List Entry) :
    Adding (sect.servers.map ServerOpt.entry)
      (addServers (list.map fun s => { s with needFree := true })
        (sect.servers.map ServerOpt.entry)) := by
  simpa using (adding_marked list).addAll (option_unmarked sect)

theorem adding_loadConfig (sect : ServerSection) (list : List Entry) :
    Adding sect.configured (loadConfig sect list) :=
  (adding_options sect list).unmarked.addAll (old_unmarked sect)

theorem loadConfig_unmarked (sect : ServerSection) (list : List Entry) :
    ∀ s ∈ loadConfig sect list, s.needFree = false :=
  addServers_unmarked (fun s hs => by simpa using (List.mem_filter.1 hs).2) (old_unmarked sect)

theorem first_kept (hk : k ∈ (sect.servers.map ServerOpt.entry).map Entry.key) :
    first k (sect.kept list) = first k list := by
  unfold first ServerSection.kept
  rw [List.find?_filter]
  congr 1
  grind

theorem first_options (k : UInt32 × Nat × Nat) (sect : ServerSection) (list : List Entry) :
    (first k ((addServers (list.map fun s => { s with needFree := true })
      (sect.servers.map ServerOpt.entry)).filter fun s => !s.needFree)).map Entry.conf =
      (first k (sect.kept list ++ sect.servers.map ServerOpt.entry)).map Entry.conf := by
  have hadd := adding_options sect list
  by_cases hk : k ∈ (sect.servers.map ServerOpt.entry).map Entry.key
  · obtain ⟨s, hs, hfree, rfl⟩ := hadd.all k hk
    rw [hadd.unmarked.first_eq (List.mem_filter.2 ⟨hs, by simp [hfree]⟩) hfree,
      ← hadd.first_eq hs hfree, first_addServers, first_append, first_append, Option.map_or,
      first_marked, first_kept hk, Option.map_or]
  · -- neither list has a server with this key
    rw [first_eq_none, first_eq_none]
    · intro s hs he
      rcases List.mem_append.1 hs with hs | hs
      · exact hk (he ▸ by simpa using (List.mem_filter.1 hs).2)
      · exact hk (he ▸ List.mem_map_of_mem hs)
    · intro s hs he
      obtain ⟨hs, hfree⟩ := List.mem_filter.1 hs
      exact hk (he ▸ hadd.only s hs (by simpa using hfree))

theorem first_loadConfig (k : UInt32 × Nat × Nat) (sect : ServerSection) (list : List Entry) :
    (first k (loadConfig sect list)).map Entry.conf =
      (first k (sect.kept list ++ sect.configured)).map Entry.conf := by
  rw [loadConfig, first_addServers, first_append, Option.map_or, first_options, ← Option.map_or,
    ← first_append, List.append_assoc]
  rfl

/-- The server in the list with the key of a configured one, and the first it is taken for. -/
theorem loadConfig_entry (list : List Entry) (ho : o ∈ sect.configured) :
    ∃ s ∈ loadConfig sect list, s.key = o.key ∧
    ∃ s', first o.key (sect.kept list ++ sect.configured) = some s' ∧ s.triple = s'.triple := by
  have hadd := adding_loadConfig sect list
  obtain ⟨s, hs, hfree, hkey⟩ := hadd.all o.key (List.mem_map_of_mem ho)
  refine ⟨s, hs, hkey, ?_⟩
  have h := first_loadConfig o.key sect list
  rw [← hkey, hadd.first_eq hs hfree] at h
  obtain ⟨s', hs', hconf⟩ := Option.map_eq_some_iff.1 h.symm
  exact ⟨s', hkey ▸ hs', Entry.triple_of_conf hconf.symm⟩

theorem eq_of_key {s s' : Entry} (hs : s ∈ loadConfig sect list)
    (hs' : s' ∈ loadConfig sect list) (hkey : s.key = s'.key) : s = s' := by
  have hadd := adding_loadConfig sect list
  have h := hadd.first_eq hs (loadConfig_unmarked sect list s hs)
  rw [hkey, hadd.first_eq hs' (loadConfig_unmarked sect list s' hs')] at h
  exact (Option.some.inj h).symm

/-- **The servers after a reload** are those of the configuration, each of them once, just if the
first server that a configured one is taken for has its address. -/
theorem loadConfig_iff (sect : ServerSection) (list : List Entry) :
    (((loadConfig sect list).map Entry.triple).Nodup ∧
      ∀ t, t ∈ (loadConfig sect list).map Entry.triple ↔
        t ∈ sect.configured.map Entry.triple) ↔
      Told sect list := by
  have hadd := adding_loadConfig sect list
  constructor
  · rintro ⟨-, hmem⟩ o ho s' hs'
    obtain ⟨s, hs, htriple⟩ := List.mem_map.1 ((hmem o.triple).2 (List.mem_map_of_mem ho))
    obtain ⟨s1, hs1, hkey, s2, hs2, htriple'⟩ := loadConfig_entry list ho
    cases hs'.symm.trans hs2
    rw [← htriple', ← htriple, eq_of_key hs hs1 ((Entry.key_of_triple htriple).trans hkey.symm)]
  · intro htold
    refine ⟨?_, fun t => ⟨?_, ?_⟩⟩
    · refine List.pairwise_map.2 (hadd.before.imp_of_mem fun {s' s} _ hs hdiff heq => ?_)
      exact hdiff (loadConfig_unmarked sect list s hs) (Entry.key_of_triple heq)
    · rintro ht
      obtain ⟨s, hs, rfl⟩ := List.mem_map.1 ht
      obtain ⟨o, ho, hkey⟩ :=
        List.mem_map.1 (hadd.only s hs (loadConfig_unmarked sect list s hs))
      obtain ⟨s1, hs1, hkey1, s2, hs2, htriple⟩ := loadConfig_entry list ho
      cases eq_of_key hs1 hs (hkey1.trans hkey)
      rw [htriple, htold o ho s2 hs2]
      exact List.mem_map_of_mem ho
    · rintro ht
      obtain ⟨o, ho, rfl⟩ := List.mem_map.1 ht
      obtain ⟨s, hs, -, s', hs', htriple⟩ := loadConfig_entry list ho
      rw [← htold o ho s' hs', ← htriple]
      exact List.mem_map_of_mem hs

def serverAt (addr : Addr) : ServerOpt := ⟨addr, [], 1812, 1813, 0, false, ⟨0, 0, 0, true, []⟩⟩

def serversAt (addrs : List Addr) : ServerSection :=
  ⟨addrs.map serverAt, ⟨0, 0, 0, true, []⟩, none, none⟩

/-- **Of two IPv6 servers with the same ports only the first is in the list.** -/
theorem ipv6_servers_merged :
    (loadConfig (serversAt [.v6 1, .v6 2]) []).map Entry.triple = [(.v6 1, 1812, 1813)] ∧
      ¬∀ t, t ∈ (loadConfig (serversAt [.v6 1, .v6 2]) []).map Entry.triple ↔
        t ∈ (serversAt [.v6 1, .v6 2]).configured.map Entry.triple := by
  have h : (loadConfig (serversAt [.v6 1, .v6 2]) []).map Entry.triple = [(.v6 1, 1812, 1813)] := by
    decide
  refine ⟨h, fun hall => ?_⟩
  have := (hall (.v6 2, 1812, 1813)).2 (by decide)
  exact absurd this (by decide)

end Radius
