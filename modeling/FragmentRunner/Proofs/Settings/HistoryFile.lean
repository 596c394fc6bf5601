import FragmentRunner.Settings
import FragmentRunner.Proofs.FileSystem.Way
import FragmentRunner.Proofs.Path.Listing

/-!
# The file that lines are remembered in

The settings may name the file from the home directory, by a tilde in the place of the first
component. What replaces the tilde is the home directory as it is set; what follows is put below it
by components, so that a slash too many does not lead anywhere else.

* `historyPath_below_home`: the path of the file, for all settings and all home directories.
-/

namespace FragmentRunner.DialogueSettings

open FragmentRunner.Path FileSystem

variable {settings : DialogueSettings} {env : Environment} {path rest : Path} {home : String}

/-- The tilde stands for the home directory. -/
def tilde : Name := ['~']

/-- A leading tilde is replaced if there is something to replace it. -/
theorem historyPath?_of_strip (hfile : settings.historyFile = some path)
    (hhome : env.get? "HOME" = some home) (hstrip : path.stripFirst? tilde = some rest) :
    settings.historyPath? env = some ((ofString home).join rest) := by
  rw [tilde] at hstrip
  simp only [historyPath?, hfile, Option.map_some, hstrip, hhome]

/-- Otherwise the path stays as it is spelled. -/
theorem historyPath?_of_not_strip (hfile : settings.historyFile = some path)
    (h : path.stripFirst? tilde = none ∨ env.get? "HOME" = none) :
    settings.historyPath? env = some path := by
  rw [tilde] at h
  simp only [historyPath?, hfile, Option.map_some]
  rcases h with hstrip | hhome
  · rw [hstrip]
  · rw [hhome]
    cases path.stripFirst? ['~'] <;> rfl

/-- What is joined to a directory leads on from where the directory leads, whatever stands there. -/
theorem follow_join (fs : FileSystem) (directory : Path) (hrest : rest.isAbsolute = false) :
    follow (fs.startOf (directory.join rest)) (directory.join rest).steps =
      follow (follow (fs.startOf directory) directory.steps) rest.steps := by
  have hstart : (directory.join rest).isAbsolute = directory.isAbsolute := by
    by_cases hdirectory : directory.chars = []
    · rw [join_of_eq_nil hdirectory, hrest, isAbsolute, hdirectory]
      rfl
    · exact isAbsolute_join_relative hdirectory hrest
  rw [startOf, startOf, hstart, steps_join_relative directory hrest, follow_append]

/-- If the first component of the path in the settings is a tilde, and the home directory is set,
then the file is at the path that lists the components of the home directory and then those after
the tilde. So it is where these lead from the home directory, and below it unless double dots are
among them, however many slashes there are. In every other case the path is taken as it is
spelled. -/
theorem historyPath_below_home (settings : DialogueSettings) (env : Environment) :
    (settings.historyFile = none → settings.historyPath? env = none) ∧
    ∀ path, settings.historyFile = some path →
      (∀ home, env.get? "HOME" = some home → path.components.head? = some ['~'] →
        ∃ expanded, settings.historyPath? env = some expanded ∧
          expanded.components = (ofString home).components ++ path.components.tail ∧
          ∀ fs : FileSystem,
            let homePlace := follow (fs.startOf (ofString home)) (ofString home).steps
            let place := follow (fs.startOf expanded) expanded.steps
            place = follow homePlace path.components.tail ∧
              (up ∉ path.components.tail → homePlace <+: place)) ∧
      (path.components.head? ≠ some ['~'] ∨ env.get? "HOME" = none →
        settings.historyPath? env = some path) := by
  have htilde : isIdle tilde = false := by decide
  have hfirst : ∀ path : Path, path.components.head? = some ['~'] ↔
      (segments path.chars).head? = some tilde :=
    fun path => head?_components htilde (by decide)
  refine ⟨fun hnone => by rw [historyPath?, hnone]; rfl, fun path hfile => ⟨?_, ?_⟩⟩
  · intro home hhome hhead
    obtain ⟨rest, hstrip, hrelative, hlead, hlisted⟩ :=
      components_stripFirst? ((hfirst path).mp hhead) htilde
    have htail : path.components.tail = rest.components := by rw [hlisted, List.tail_cons]
    have hnames : rest.names = path.components.tail := by
      rw [htail, components, hlead, List.nil_append]
    refine ⟨_, historyPath?_of_strip hfile hhome hstrip, ?_, fun fs => ?_⟩
    · rw [components_join _ hrelative hlead, htail]
    · intro homePlace place
      have hplace : place = follow homePlace path.components.tail := by
        rw [← hnames, follow_names]
        exact follow_join fs (ofString home) hrelative
      refine ⟨hplace, fun hup => ?_⟩
      rw [hplace]
      exact prefix_follow hup
  · intro h
    refine historyPath?_of_not_strip hfile (h.imp_left fun hhead => ?_)
    exact stripFirst?_eq_none fun hsegment => hhead ((hfirst path).mpr hsegment)

example : historyPath? { historyFile := some (.ofString "~//etc/x") } ⟨[("HOME", "/home/u/")]⟩ =
    some (.ofString "/home/u/etc/x") := by decide

end FragmentRunner.DialogueSettings
