import ShardOperator.Desired.Containers

namespace ShardOperator

/-- The port with another number; it has none on the node. -/
def ContainerPort.renumbered (port : ContainerPort) (number : Int32) : ContainerPort :=
  { port with containerPort := number, hostPort := none }

/-- The port that is added where the name is missing. -/
def ContainerPort.ofName (name : String) (number : Int32) : ContainerPort :=
  { containerPort := number, name := some name, protocol := some "TCP" }

/-- The index of the first port of a name. -/
def portIndex? (name : String) (ports : List ContainerPort) : Option Nat :=
  ports.findIdx? (·.name = some name)

/-- The first port of a name. -/
def portNamed? (name : String) (ports : List ContainerPort) : Option ContainerPort :=
  ports.find? (·.name = some name)

/-- Names with the numbers that their ports are to have. -/
abbrev NamedPorts := List (String × Int32)

def setNamedPorts (named : NamedPorts) (ports : List ContainerPort) : List ContainerPort :=
  named.foldl (fun ports p => setNamedPort p.1 p.2 ports) ports

section One

variable {name other : String} {number : Int32} {ports : List ContainerPort} {n : Nat}
  {port : ContainerPort}

theorem name_of_portIndex? (h : portIndex? name ports = some n) (hport : ports[n]? = some port) :
    port.name = some name := by
  obtain ⟨hn, hname, -⟩ := List.findIdx?_eq_some_iff_getElem.1 h
  obtain ⟨_, rfl⟩ := List.getElem?_eq_some_iff.1 hport
  exact of_decide_eq_true hname

theorem portIndex?_setNamedPort (hne : name ≠ other) :
    portIndex? other (setNamedPort name number ports) = portIndex? other ports := by
  have hnew : some name ≠ some other := fun h => hne (Option.some.inj h)
  unfold portIndex?
  induction ports with
  | nil => simp [setNamedPort, hnew]
  | cons head rest ih =>
    unfold setNamedPort
    split
    · next hhead => simp [List.findIdx?_cons, hhead, hnew]
    · simp only [List.findIdx?_cons, ih]

theorem portNamed?_setNamedPort (hne : name ≠ other) :
    portNamed? other (setNamedPort name number ports) = portNamed? other ports := by
  have hnew : some name ≠ some other := fun h => hne (Option.some.inj h)
  unfold portNamed?
  induction ports with
  | nil => simp [setNamedPort, hnew]
  | cons head rest ih =>
    unfold setNamedPort
    split
    · next hhead => simp [hhead, hnew]
    · simp only [List.find?_cons, ih]

theorem portNamed?_setNamedPort_self (name : String) (number : Int32)
    (ports : List ContainerPort) :
    ∃ port, portNamed? name (setNamedPort name number ports) = some port ∧
      port.containerPort = number := by
  unfold portNamed?
  induction ports with
  | nil => exact ⟨.ofName name number, by simp [setNamedPort, ContainerPort.ofName], rfl⟩
  | cons head rest ih =>
    unfold setNamedPort
    split
    · next hhead => exact ⟨head.renumbered number, by simp [hhead, ContainerPort.renumbered], rfl⟩
    · next hhead =>
      obtain ⟨port, hfound, hnumber⟩ := ih
      exact ⟨port, by simp [hhead, hfound], hnumber⟩

/-- The first port of the name is renumbered, or one is added at the end. -/
theorem setNamedPort_eq (name : String) (number : Int32) (ports : List ContainerPort) :
    setNamedPort name number ports = match portIndex? name ports with
      | some n => ports.modify n (·.renumbered number)
      | none => ports ++ [.ofName name number] := by
  unfold portIndex?
  induction ports with
  | nil => rfl
  | cons head rest ih =>
    rw [List.findIdx?_cons]
    unfold setNamedPort
    by_cases hhead : head.name = some name
    · rw [if_pos hhead, if_pos (decide_eq_true hhead)]
      rfl
    · rw [if_neg hhead, if_neg (by simpa using hhead), ih]
      cases rest.findIdx? (·.name = some name) <;> rfl

theorem getElem?_setNamedPort_first (h : portIndex? name ports = some n)
    (hport : ports[n]? = some port) :
    (setNamedPort name number ports)[n]? = some (port.renumbered number) := by
  rw [setNamedPort_eq, h]
  simp [hport]

theorem getElem?_setNamedPort_of_ne (h : portIndex? name ports ≠ some n)
    (hport : ports[n]? = some port) : (setNamedPort name number ports)[n]? = some port := by
  rw [setNamedPort_eq]
  cases hindex : portIndex? name ports with
  | none => exact List.getElem?_append_left (List.getElem?_eq_some_iff.1 hport).1 ▸ hport
  | some m =>
    have hne : m ≠ n := fun heq => h (heq ▸ hindex)
    simp [hne, hport]

/-- Behind the ports that were there is at most the one that is added. -/
theorem split_setNamedPort (name : String) (number : Int32) (ports : List ContainerPort) :
    ∃ front, front.length = ports.length ∧ setNamedPort name number ports =
      front ++ if (portIndex? name ports).isNone then [.ofName name number] else [] := by
  rw [setNamedPort_eq]
  cases portIndex? name ports with
  | none => exact ⟨ports, rfl, rfl⟩
  | some n => exact ⟨_, List.length_modify .., (List.append_nil _).symm⟩

end One

/-- What the ports of a container become where some named ones get their numbers: the first of each
name is renumbered, the others stay, and the names that are missing come behind them. -/
structure Exposes (named : NamedPorts) (before after : List ContainerPort) : Prop where
  first : ∀ p ∈ named, ∀ n port, portIndex? p.1 before = some n → before[n]? = some port →
    after[n]? = some (port.renumbered p.2)
  others : ∀ n port, (∀ p ∈ named, portIndex? p.1 before ≠ some n) → before[n]? = some port →
    after[n]? = some port
  added : after.drop before.length =
    (named.filter fun p => (portIndex? p.1 before).isNone).map fun p => .ofName p.1 p.2

/-- A name is set after others: what was set before stays, since it has another name. -/
theorem Exposes.cons {p : String × Int32} {named : NamedPorts} {before after : List ContainerPort}
    (hfresh : p.1 ∉ named.map Prod.fst) (h : Exposes named (setNamedPort p.1 p.2 before) after) :
    Exposes (p :: named) before after := by
  have hne {q : String × Int32} (hq : q ∈ named) : p.1 ≠ q.1 := fun heq =>
    hfresh (heq ▸ List.mem_map_of_mem hq)
  have hsame {q : String × Int32} (hq : q ∈ named) :
      portIndex? q.1 (setNamedPort p.1 p.2 before) = portIndex? q.1 before :=
    portIndex?_setNamedPort (hne hq)
  -- What has the name that is set first has none of the others.
  have hkept {n : Nat} {port : ContainerPort} (hname : port.name = some p.1)
      (hport : (setNamedPort p.1 p.2 before)[n]? = some port) : after[n]? = some port :=
    h.others n port (fun q hq hn => hne hq (Option.some.inj
      (hname.symm.trans (name_of_portIndex? hn hport)))) hport
  refine ⟨fun q hq n port hn hport => ?_, fun n port hnone hport => ?_, ?_⟩
  · rcases List.mem_cons.1 hq with rfl | hq
    · have hname := name_of_portIndex? hn hport
      have hrenumbered : (port.renumbered q.2).name = some q.1 := hname
      exact hkept hrenumbered (getElem?_setNamedPort_first hn hport)
    · refine h.first q hq n port ((hsame hq).trans hn) (getElem?_setNamedPort_of_ne ?_ hport)
      intro hp
      exact hne hq (Option.some.inj
        ((name_of_portIndex? hp hport).symm.trans (name_of_portIndex? hn hport)))
  · refine h.others n port (fun q hq => ?_) (getElem?_setNamedPort_of_ne ?_ hport)
    · rw [hsame hq]
      exact hnone q (List.mem_cons_of_mem _ hq)
    · exact hnone p (List.mem_cons_self ..)
  · have hadded := h.added
    have hmissing : (named.filter fun q =>
          (portIndex? q.1 (setNamedPort p.1 p.2 before)).isNone) =
        named.filter fun q => (portIndex? q.1 before).isNone :=
      List.filter_congr fun q hq => by rw [hsame hq]
    obtain ⟨front, hlength, hsplit⟩ := split_setNamedPort p.1 p.2 before
    rw [hmissing] at hadded
    rw [List.filter_cons]
    by_cases hindex : (portIndex? p.1 before).isNone = true
    · rw [if_pos hindex] at hsplit ⊢
      have hnew : (setNamedPort p.1 p.2 before)[before.length]? = some (.ofName p.1 p.2) := by
        rw [hsplit, ← hlength, List.getElem?_concat_length]
      rw [hsplit, List.length_append, hlength] at hadded
      rw [List.drop_eq_getElem?_toList_append, hkept rfl hnew]
      exact congrArg (ContainerPort.ofName p.1 p.2 :: ·) hadded
    · rw [if_neg hindex, List.append_nil] at hsplit
      rw [hsplit, hlength] at hadded
      rw [if_neg hindex]
      exact hadded

theorem exposes_setNamedPorts {named : NamedPorts} (hnames : (named.map Prod.fst).Nodup)
    (ports : List ContainerPort) : Exposes named ports (setNamedPorts named ports) := by
  induction named generalizing ports with
  | nil =>
    refine ⟨fun p hp => absurd hp List.not_mem_nil, fun n port _ hport => hport, ?_⟩
    exact List.drop_length
  | cons p rest ih =>
    obtain ⟨hfresh, hrest⟩ := List.nodup_cons.1 hnames
    exact .cons hfresh (ih hrest (setNamedPort p.1 p.2 ports))

/-- Every name is found with its number. -/
theorem portNamed?_setNamedPorts {named : NamedPorts} (hnames : (named.map Prod.fst).Nodup)
    {p : String × Int32} (hp : p ∈ named) (ports : List ContainerPort) :
    ∃ port, portNamed? p.1 (setNamedPorts named ports) = some port ∧
      port.containerPort = p.2 := by
  have hkeep {name : String} {named : NamedPorts} (hfresh : name ∉ named.map Prod.fst)
      (ports : List ContainerPort) :
      portNamed? name (setNamedPorts named ports) = portNamed? name ports := by
    induction named generalizing ports with
    | nil => rfl
    | cons q rest ih =>
      rw [List.map_cons, List.mem_cons, not_or] at hfresh
      exact (ih hfresh.2 _).trans (portNamed?_setNamedPort (Ne.symm hfresh.1))
  induction named generalizing ports with
  | nil => exact absurd hp List.not_mem_nil
  | cons q rest ih =>
    obtain ⟨hfresh, hrest⟩ := List.nodup_cons.1 hnames
    rcases List.mem_cons.1 hp with rfl | hp
    · obtain ⟨port, hfound, hnumber⟩ := portNamed?_setNamedPort_self p.1 p.2 ports
      exact ⟨port, (hkeep hfresh _).trans hfound, hnumber⟩
    · exact ih hrest hp _

end ShardOperator
