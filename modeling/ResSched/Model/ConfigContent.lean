import ResSched.Model.PluginConfig

/-! # Loading plugin configurations and switches from XML contents -/

namespace ResSched

def XML_TAG_RES_SCHED : String := "ressched"
def XML_TAG_PLUGIN_LIST : String := "pluginlist"
def XML_TAG_PLUGIN : String := "plugin"
def XML_TAG_CONFIG : String := "config"
def XML_TAG_ITEM : String := "item"
def XML_ATTR_NAME : String := "name"
def XML_ATTR_LIB_PATH : String := "libpath"
def XML_ATTR_LIB_PATH_EXE : String := "libpathexe"
def XML_ATTR_SWITCH : String := "switch"
def SWITCH_ON : String := "1"

/-! ## The element tree -/

structure XmlAttribute where
  name : Option String
  value : Option String

/-- A node of the tree the parser gives back; `content` is its `xmlNodeGetContent`. -/
structure XmlNode where
  name : Option String
  isComment : Bool
  properties : List XmlAttribute
  content : Option String
  children : List XmlNode

def xmlGetProp (node : XmlNode) (name : String) : Option String :=
  (node.properties.find? fun property => property.name = some name).bind XmlAttribute.value

def IsInvalidNode (node : XmlNode) : Bool :=
  node.name.isNone || node.isComment

/-- The loops skip every child that is not of the tag. -/
def XmlNode.isElement (tag : String) (node : XmlNode) : Bool :=
  !IsInvalidNode node && node.name = some tag

/-! ## Configurations -/

def ParseProperties (node : XmlNode) : AssocMap String String :=
  node.properties.foldl (fun properties property =>
    match property.name with
    | none => properties
    | some name =>
        match xmlGetProp node name with
        | none => properties
        | some value => properties.insert name value) ∅

def ParseSubItem (parentNode : XmlNode) : List SubItem :=
  (parentNode.children.filter fun node => !IsInvalidNode node).map fun node =>
    ⟨node.name.getD "", node.content.getD "", ParseProperties node⟩

def ParseItem (parentNode : XmlNode) (pluginConfig : PluginConfig) : PluginConfig :=
  (parentNode.children.filter (XmlNode.isElement XML_TAG_ITEM)).foldl (fun config node =>
    ⟨config.itemList ++ [⟨ParseProperties node, ParseSubItem node⟩]⟩) pluginConfig

def ParseConfig (parentNode : XmlNode) (pluginConfigMap : PluginConfigMap) : PluginConfigMap :=
  (parentNode.children.filter (XmlNode.isElement XML_TAG_CONFIG)).foldl (fun configMap node =>
    match xmlGetProp node XML_ATTR_NAME with
    | none => configMap
    | some configName =>
        configMap.insert configName (ParseItem node ((configMap.lookup configName).getD ⟨[]⟩)))
    pluginConfigMap

/-- `none` is the failure of a plugin without a name. -/
def ParsePluginConfig (node : XmlNode) (pluginConfigs : AssocMap String PluginConfigMap) :
    Option (AssocMap String PluginConfigMap) :=
  match xmlGetProp node XML_ATTR_NAME with
  | none => none
  | some pluginName =>
      some (pluginConfigs.insert pluginName
        (ParseConfig node ((pluginConfigs.lookup pluginName).getD ∅)))

/-- One child of the root, where everything but a plugin is wrong. -/
def ParsePlugin (pluginConfigs : AssocMap String PluginConfigMap) (node : XmlNode) :
    Option (AssocMap String PluginConfigMap) :=
  if IsInvalidNode node then some pluginConfigs
  else if node.name = some XML_TAG_PLUGIN then ParsePluginConfig node pluginConfigs
  else none

namespace ConfigReader

def MergePluginConfigMap (curPluginConfigMap nextPluginConfigMap : PluginConfigMap) :
    PluginConfigMap :=
  AssocMap.merge (fun _ next => next) curPluginConfigMap nextPluginConfigMap

def MergeConfigList (reader : ConfigReader) (pluginConfigs : AssocMap String PluginConfigMap) :
    ConfigReader where
  allPluginConfigs_ := AssocMap.merge (fun current next =>
    match current with
    | none => next
    | some configMap => MergePluginConfigMap configMap next) reader.allPluginConfigs_ pluginConfigs

/-- `xmlReadMemory` gives the root element of the tree, if the content has one. -/
def LoadFromConfigContent (xmlReadMemory : String → Option XmlNode) (reader : ConfigReader)
    (content : String) : Bool × ConfigReader :=
  match xmlReadMemory content with
  | none => (false, reader)
  | some root =>
      if root.name ≠ some XML_TAG_RES_SCHED then (false, reader)
      else
        match root.children.foldlM ParsePlugin ∅ with
        | none => (false, reader)
        | some pluginConfigs => (true, reader.MergeConfigList pluginConfigs)

end ConfigReader

/-! ## Switches -/

namespace PluginSwitch

structure PluginInfo where
  libPath : String
  switchOn : Bool
deriving DecidableEq

def FillinPluginInfo (node : XmlNode) (isRssExe : Bool) : Option PluginInfo :=
  match xmlGetProp node (if isRssExe then XML_ATTR_LIB_PATH_EXE else XML_ATTR_LIB_PATH) with
  | none => none
  | some libPath =>
      if libPath = "" then none
      else some ⟨libPath, xmlGetProp node XML_ATTR_SWITCH = some SWITCH_ON⟩

/-- The loop over the children of the root, which writes into the table as it goes. -/
def LoadNodes (isRssExe : Bool) (pluginSwitchMap : AssocMap String PluginInfo) :
    List XmlNode → Bool × AssocMap String PluginInfo
  | [] => (true, pluginSwitchMap)
  | node :: nodes =>
      if IsInvalidNode node then LoadNodes isRssExe pluginSwitchMap nodes
      else if node.name ≠ some XML_TAG_PLUGIN then (false, pluginSwitchMap)
      else
        match FillinPluginInfo node isRssExe with
        | none => LoadNodes isRssExe pluginSwitchMap nodes
        | some info => LoadNodes isRssExe (pluginSwitchMap.insert info.libPath info) nodes

def LoadFromConfigContent (xmlReadMemory : String → Option XmlNode)
    (pluginSwitchMap : AssocMap String PluginInfo) (content : String) (isRssExe : Bool) :
    Bool × AssocMap String PluginInfo :=
  match xmlReadMemory content with
  | none => (false, pluginSwitchMap)
  | some root =>
      if root.name ≠ some XML_TAG_PLUGIN_LIST then (false, pluginSwitchMap)
      else LoadNodes isRssExe pluginSwitchMap root.children

end PluginSwitch

end ResSched
