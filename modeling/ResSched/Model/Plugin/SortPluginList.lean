import ResSched.Library.ListSort
import ResSched.Model.Plugin.Repair

/-! # The order in which plugins are dispatched to -/

namespace ResSched.Plugin

def PluginStat.AverageTime (stat : PluginStat) : Nat :=
  if stat.useCount > 0 then stat.totalTime / stat.useCount else 0

/-- The comparator of `SortPluginList`. -/
def costsLess (pluginStat : AssocMap String PluginStat) (a b : String) : Bool :=
  match pluginStat.lookup a, pluginStat.lookup b with
  | some stat, some stat' => stat.AverageTime < stat'.AverageTime
  | _, _ => false

def SortPluginList (pluginStat : AssocMap String PluginStat) (pluginList : List String) :
    List String :=
  ListSort.listSort (costsLess pluginStat) pluginList

end ResSched.Plugin
