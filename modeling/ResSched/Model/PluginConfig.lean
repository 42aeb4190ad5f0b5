import ResSched.Library.AssocMap

/-! # Plugin configuration items -/

namespace ResSched

structure SubItem where
  name : String
  value : String
  properties : AssocMap String String

structure Item where
  itemProperties : AssocMap String String
  subItemList : List SubItem

structure PluginConfig where
  itemList : List Item

/-- `properties[key]` of a string map: a missing key reads as the empty string. -/
def propertyOf (properties : AssocMap String String) (key : String) : String :=
  (properties.lookup key).getD ""

/-! ## The configurations that have not been read -/

abbrev PluginConfigMap := AssocMap String PluginConfig

structure ConfigReader where
  allPluginConfigs_ : AssocMap String PluginConfigMap

def ConfigReader.GetConfig (reader : ConfigReader) (pluginName configName : String) :
    PluginConfig :=
  match reader.allPluginConfigs_.lookup pluginName with
  | none => ⟨[]⟩
  | some configMap => (configMap.lookup configName).getD ⟨[]⟩

def ConfigReader.RemoveConfig (reader : ConfigReader) (pluginName configName : String) :
    ConfigReader :=
  match reader.allPluginConfigs_.lookup pluginName with
  | none => reader
  | some configMap =>
      if (configMap.lookup configName).isNone then reader
      else
        let configMap := AList.erase configName configMap
        if configMap.keys.length = 0 then ⟨reader.allPluginConfigs_.erase pluginName⟩
        else ⟨reader.allPluginConfigs_.insert pluginName configMap⟩

end ResSched
