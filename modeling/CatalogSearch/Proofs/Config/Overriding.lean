import CatalogSearch.Config

/-!
# Overriding the host

An override points the index at another host and fills in how to sign in there. What the file says
about signing in is kept, with one exception: a password without a user name does not count, and
where a user is filled in for a host that is not managed, the password is overwritten with it.
-/
namespace CatalogSearch.Config

/-- A user is filled in: the host is not managed, and neither a region nor a user is named. -/
structure FillsUser (host : String) (c : IndexConfig) : Prop where
  unmanaged : isManagedHost host = false
  region : c.awsRegion = none
  user : c.username = none

/-- A user is filled in although a password is there. -/
structure LonePassword (host : String) (c : IndexConfig) : Prop extends FillsUser host c where
  password : c.password ≠ none

variable (host : String) (c : IndexConfig)

/-- What an override can do: name a region for a managed host, fill in a user, or neither. -/
theorem overrideHost_cases :
    (isManagedHost host = true ∧ overrideHost host c = { c with
      url := urlForHost host, awsRegion := some (c.awsRegion.getD defaultRegion) }) ∨
    (FillsUser host c ∧ overrideHost host c = { c with
      url := urlForHost host, username := some defaultUser, password := some defaultUser
      acceptInvalidCerts := true }) ∨
    (¬ FillsUser host c ∧ overrideHost host c = { c with url := urlForHost host }) := by
  by_cases managed : isManagedHost host = true
  · exact .inl ⟨managed, by simp [overrideHost, managed]⟩
  by_cases unnamed : c.awsRegion = none ∧ c.username = none
  · obtain ⟨region, user⟩ := unnamed
    exact .inr (.inl ⟨⟨by simpa using managed, region, user⟩,
      by simp [overrideHost, managed, region, user]⟩)
  · refine .inr (.inr ⟨fun fills => unnamed ⟨fills.region, fills.user⟩, ?_⟩)
    simp [overrideHost, managed, unnamed]

theorem overrideHost_frame : overrideHost host c = { c with
    url := (overrideHost host c).url
    awsRegion := (overrideHost host c).awsRegion
    username := (overrideHost host c).username
    password := (overrideHost host c).password
    acceptInvalidCerts := (overrideHost host c).acceptInvalidCerts } := by
  obtain ⟨-, after⟩ | ⟨-, after⟩ | ⟨-, after⟩ := overrideHost_cases host c <;> rw [after]

theorem url_overrideHost : (overrideHost host c).url = urlForHost host := by
  obtain ⟨-, after⟩ | ⟨-, after⟩ | ⟨-, after⟩ := overrideHost_cases host c <;> rw [after]

variable {host c}

theorem overrideHost_of_fillsUser (fills : FillsUser host c) : overrideHost host c = { c with
    url := urlForHost host, username := some defaultUser, password := some defaultUser
    acceptInvalidCerts := true } := by
  obtain ⟨managed, -⟩ | ⟨-, after⟩ | ⟨counts, -⟩ := overrideHost_cases host c
  · rw [fills.unmanaged] at managed
    cases managed
  · exact after
  · exact absurd fills counts

theorem overrideHost_of_not_fillsUser (counts : ¬ FillsUser host c) : overrideHost host c = { c with
    url := urlForHost host, awsRegion := (overrideHost host c).awsRegion } := by
  obtain ⟨-, after⟩ | ⟨fills, -⟩ | ⟨-, after⟩ := overrideHost_cases host c
  · rw [after]
  · exact absurd fills counts
  · rw [after]

theorem awsRegion_overrideHost {region : String} (named : c.awsRegion = some region) :
    (overrideHost host c).awsRegion = some region := by
  obtain ⟨-, after⟩ | ⟨fills, -⟩ | ⟨-, after⟩ := overrideHost_cases host c
  · rw [after, named]
    rfl
  · rw [fills.region] at named
    cases named
  · rw [after]
    exact named

theorem username_overrideHost {user : String} (named : c.username = some user) :
    (overrideHost host c).username = some user := by
  have counts : ¬ FillsUser host c := by
    intro fills
    rw [fills.user] at named
    cases named
  rw [overrideHost_of_not_fillsUser counts]
  exact named

theorem password_overrideHost {password : String} (named : c.password = some password)
    (counts : ¬ FillsUser host c) : (overrideHost host c).password = some password := by
  rw [overrideHost_of_not_fillsUser counts]
  exact named

/-- Certificates that were checked go unchecked only where a user is filled in. -/
theorem fillsUser_of_acceptInvalidCerts (checked : c.acceptInvalidCerts = false)
    (unchecked : (overrideHost host c).acceptInvalidCerts = true) : FillsUser host c := by
  by_cases fills : FillsUser host c
  · exact fills
  · rw [overrideHost_of_not_fillsUser fills, checked] at unchecked
    cases unchecked

/-- An override changes nothing but the URL and how to sign in. A region and a user that are named
stay. Unless a user is filled in beside a lone password, the password stays as well, and
certificates that were checked go unchecked only for a host that is not managed while neither a
region nor a user nor a password is named. A lone password is overwritten, and certificates go
unchecked. -/
theorem overrideHost_keeps (host : String) (c : IndexConfig) :
    overrideHost host c = { c with
      url := urlForHost host
      awsRegion := (overrideHost host c).awsRegion
      username := (overrideHost host c).username
      password := (overrideHost host c).password
      acceptInvalidCerts := (overrideHost host c).acceptInvalidCerts } ∧
    (∀ region, c.awsRegion = some region → (overrideHost host c).awsRegion = some region) ∧
    (∀ user, c.username = some user → (overrideHost host c).username = some user) ∧
    (¬ LonePassword host c →
      (∀ password, c.password = some password → (overrideHost host c).password = some password) ∧
      (c.acceptInvalidCerts = false → (overrideHost host c).acceptInvalidCerts = true →
        isManagedHost host = false ∧ c.awsRegion = none ∧ c.username = none ∧
          c.password = none)) ∧
    (LonePassword host c → (overrideHost host c).password = some defaultUser ∧
      (overrideHost host c).acceptInvalidCerts = true) := by
  refine ⟨?_, fun _ => awsRegion_overrideHost, fun _ => username_overrideHost,
    fun counts => ⟨fun password named => ?_, fun checked unchecked => ?_⟩, fun lone => ?_⟩
  · rw [← url_overrideHost host c]
    exact overrideHost_frame host c
  · refine password_overrideHost named fun fills => counts ⟨fills, ?_⟩
    rw [named]
    exact Option.some_ne_none password
  · have fills := fillsUser_of_acceptInvalidCerts checked unchecked
    refine ⟨fills.unmanaged, fills.region, fills.user, ?_⟩
    cases password : c.password with
    | none => rfl
    | some text => exact absurd ⟨fills, by rw [password]; exact Option.some_ne_none text⟩ counts
  · rw [overrideHost_of_fillsUser lone.toFillsUser]
    exact ⟨rfl, rfl⟩

/-- A password counts beside a user name, and beside a region. -/
theorem overrideHost_keeps_password :
    ¬ LonePassword "opensearch" { username := some "reader", password := some "secret" } ∧
      (overrideHost "opensearch"
        { username := some "reader", password := some "secret" }).password = some "secret" ∧
      ¬ LonePassword "opensearch" { awsRegion := some "us-east-1", password := some "secret" } ∧
      (overrideHost "opensearch"
        { awsRegion := some "us-east-1", password := some "secret" }).password = some "secret" ∧
      LonePassword "opensearch" { password := some "secret" } ∧
      (overrideHost "opensearch" { password := some "secret" }).password = some defaultUser := by
  have user : ¬ LonePassword "opensearch"
      { username := some "reader", password := some "secret" } :=
    fun lone => nomatch lone.user
  have region : ¬ LonePassword "opensearch"
      { awsRegion := some "us-east-1", password := some "secret" } :=
    fun lone => nomatch lone.region
  have lone : LonePassword "opensearch" { password := some "secret" } :=
    ⟨⟨by decide, rfl, rfl⟩, nofun⟩
  obtain ⟨-, -, -, kept, -⟩ := overrideHost_keeps "opensearch"
    { username := some "reader", password := some "secret" }
  obtain ⟨-, -, -, kept', -⟩ := overrideHost_keeps "opensearch"
    { awsRegion := some "us-east-1", password := some "secret" }
  obtain ⟨-, -, -, -, lost⟩ := overrideHost_keeps "opensearch" { password := some "secret" }
  exact ⟨user, (kept user).1 _ rfl, region, (kept' region).1 _ rfl, lone, (lost lone).1⟩

/-- A password without a user name is lost, and certificates go unchecked. -/
theorem overrideHost_loses_password :
    (overrideHost "opensearch" { password := some "secret" }).password = some "admin" ∧
      (overrideHost "opensearch" { password := some "secret" }).acceptInvalidCerts = true := by
  decide

end CatalogSearch.Config
