/-!
# Sites

A lair has three sites, and each of them holds one pile.  The sites are fixed,
so anything that exists once per site is a structure with three fields and not
a container: `PerSite` is that structure, read with `get` and changed with
`set`.  The lemmas at the end say how the two meet, and no later proof looks at
the three fields by name.
-/

namespace LogPiles

universe u v

/-- One of the three places that hold a pile of logs. -/
inductive Site where
  /-- Every log starts here. -/
  | forest
  /-- The place in between. -/
  | base
  /-- Every log must end here. -/
  | hideout
  deriving DecidableEq, Hashable

namespace Site

/-- The sites in the order in which they are listed and drawn. -/
def all : List Site := [forest, base, hideout]

/-- Position of a site in `all`. -/
def index : Site → Nat
  | forest => 0
  | base => 1
  | hideout => 2

/-- The name of a site in every text. -/
def label : Site → String
  | forest => "Forest"
  | base => "Base"
  | hideout => "Hideout"

/-- Sites are ordered as they are listed. -/
instance : Ord Site := ⟨fun left right => compare left.index right.index⟩

@[simp]
theorem mem_all (site : Site) : site ∈ all := by
  cases site <;> decide

/-- The site that is neither of two different ones. -/
def third : Site → Site → Site
  | forest, base | base, forest => hideout
  | forest, hideout | hideout, forest => base
  | _, _ => forest

/-- Three different sites in the parts that they play in a transfer. -/
structure Roles (source target spare : Site) : Prop where
  source_ne_target : source ≠ target
  source_ne_spare : source ≠ spare
  target_ne_spare : target ≠ spare

namespace Roles

variable {source target spare : Site}

/-- The parts of the transfer to the spare site. -/
theorem aside (roles : Roles source target spare) : Roles source spare target :=
  ⟨roles.source_ne_spare, roles.source_ne_target, roles.target_ne_spare.symm⟩

/-- The parts of the transfer from the spare site. -/
theorem back (roles : Roles source target spare) : Roles spare target source :=
  ⟨roles.target_ne_spare.symm, roles.source_ne_spare.symm, roles.source_ne_target.symm⟩

/-- The parts of the transfer in the other direction. -/
theorem swap (roles : Roles source target spare) : Roles target source spare :=
  ⟨roles.source_ne_target.symm, roles.target_ne_spare, roles.source_ne_spare⟩

/-- There is no fourth site. -/
theorem exhaust (roles : Roles source target spare) (site : Site) :
    site = source ∨ site = target ∨ site = spare := by
  obtain ⟨source_ne_target, source_ne_spare, target_ne_spare⟩ := roles
  cases source <;> cases target <;> cases spare <;> cases site <;> simp_all

end Roles

/-- Two different sites and the third one. -/
theorem roles_third {source target : Site} (distinct : source ≠ target) :
    Roles source target (third source target) := by
  refine ⟨distinct, ?_, ?_⟩ <;> cases source <;> cases target <;> simp_all [third]

theorem Roles.third_eq {source target spare : Site} (roles : Roles source target spare) :
    third source target = spare := by
  have third_roles := roles_third roles.source_ne_target
  rcases roles.exhaust (third source target) with same | same | same
  · exact absurd same third_roles.source_ne_spare.symm
  · exact absurd same third_roles.target_ne_spare.symm
  · exact same

/-- The parts that the sites play when a lair is solved. -/
theorem roles_solve : Roles forest hideout base :=
  ⟨by decide, by decide, by decide⟩

end Site

/-- One value for each site. -/
structure PerSite (α : Type u) where
  forest : α
  base : α
  hideout : α
  deriving DecidableEq, Hashable

namespace PerSite

variable {α : Type u} {β : Type v}

/-- The same value at every site. -/
def replicate (value : α) : PerSite α := ⟨value, value, value⟩

/-- The value at a site. -/
def get (values : PerSite α) : Site → α
  | .forest => values.forest
  | .base => values.base
  | .hideout => values.hideout

/-- Replaces the value at one site. -/
def set (values : PerSite α) (site : Site) (value : α) : PerSite α :=
  match site with
  | .forest => { values with forest := value }
  | .base => { values with base := value }
  | .hideout => { values with hideout := value }

/-- Changes the value at one site. -/
def modify (values : PerSite α) (site : Site) (change : α → α) : PerSite α :=
  values.set site (change (values.get site))

/-- Applies a function to all three values. -/
def map (change : α → β) (values : PerSite α) : PerSite β :=
  ⟨change values.forest, change values.base, change values.hideout⟩

/-- The sum of three numbers. -/
def total (numbers : PerSite Nat) : Nat := numbers.forest + numbers.base + numbers.hideout

/-- The three values in the order of `Site.all`. -/
def toList (values : PerSite α) : List α :=
  [values.forest, values.base, values.hideout]

/-- Three values are equal when they agree at every site. -/
theorem ext_get {left right : PerSite α}
    (agree : ∀ site, left.get site = right.get site) : left = right := by
  have forest := agree .forest
  have base := agree .base
  have hideout := agree .hideout
  cases left
  cases right
  simp_all [get]

@[simp]
theorem get_set_self (values : PerSite α) (site : Site) (value : α) :
    (values.set site value).get site = value := by
  cases site <;> rfl

theorem get_set_ne (values : PerSite α) {site other : Site} (value : α)
    (distinct : other ≠ site) :
    (values.set site value).get other = values.get other := by
  cases site <;> cases other <;> simp_all [get, set]

theorem get_set (values : PerSite α) (site other : Site) (value : α) :
    (values.set site value).get other =
      if other = site then value else values.get other := by
  by_cases same : other = site
  · subst same
    simp
  · simp [get_set_ne values value same, same]

@[simp]
theorem get_modify_self (values : PerSite α) (site : Site) (change : α → α) :
    (values.modify site change).get site = change (values.get site) := by
  simp [modify]

theorem get_modify_ne (values : PerSite α) {site other : Site} (change : α → α)
    (distinct : other ≠ site) :
    (values.modify site change).get other = values.get other :=
  get_set_ne values _ distinct

@[simp]
theorem get_map (change : α → β) (values : PerSite α) (site : Site) :
    (values.map change).get site = change (values.get site) := by
  cases site <;> rfl

@[simp]
theorem get_replicate (value : α) (site : Site) :
    (replicate value).get site = value := by
  cases site <;> rfl

@[simp]
theorem set_get (values : PerSite α) (site : Site) :
    values.set site (values.get site) = values := by
  cases site <;> rfl

@[simp]
theorem map_set (change : α → β) (values : PerSite α) (site : Site) (value : α) :
    (values.set site value).map change = (values.map change).set site (change value) := by
  cases site <;> rfl

theorem toList_eq_map_get (values : PerSite α) :
    values.toList = Site.all.map values.get := rfl

end PerSite

end LogPiles
