/-!
# The built-in template

The script that deploys a contract behind a proxy and calls its initializer. A contract without one
gets a second function that deploys it on its own, since the first one then always reverts.
-/

namespace DeployScript.Deployer

/-- The storage slot of a proxy that holds its admin, in hexadecimal. -/
def adminSlot : String := "b53127684a568b3173ae13b9f8a6016e243e63b6e8ee1178d6a717850b5d6103"

def templateLines : List String :=
  [ "// SPDX-License-Identifier: UNLICENSED",
    "pragma solidity ^0.8.0;",
    "",
    "////////////////////////////////////////////////////",
    "// AUTOGENERATED - DO NOT EDIT THIS FILE DIRECTLY //",
    "////////////////////////////////////////////////////",
    "",
    "import \"forge-std/Script.sol\";",
    "",
    "import \"__SOURCE_PATH__\";",
    "import \x7bProxyAdmin\x7d from \"@openzeppelin/contracts/proxy/transparent/ProxyAdmin.sol\";",
    "import \x7bTransparentUpgradeableProxy\x7d from \"@openzeppelin/contracts/proxy/transparent/TransparentUpgradeableProxy.sol\";",
    "",
    "abstract contract __CONTRACT__Deployer is Script \x7b",
    "    __CONTRACT__ internal __INSTANCE__;",
    "    ProxyAdmin internal __INSTANCE__ProxyAdmin;",
    "    address internal __INSTANCE__Implementation;",
    "",
    "    // __IF_FEATURE_initializable__",
    "    /// @dev Deploys __CONTRACT__ behind a TransparentUpgradeableProxy and calls initialize.",
    "    // __ENDIF__",
    "    // __IF_NOT_FEATURE_initializable__",
    "    /// @dev __CONTRACT__ has no initialize function; this helper always reverts, use deploy__CONTRACT__Implementation.",
    "    // __ENDIF__",
    "    function deploy__CONTRACT__Transparent(address proxyAdminOwner__CONSTRUCTOR_ARGS____INIT_ARGS__)",
    "        internal",
    "        returns (address)",
    "    \x7b",
    "        bytes memory initData = __INIT_DATA__;",
    "",
    "        vm.startBroadcast(msg.sender);",
    "",
    "        __INSTANCE__Implementation = address(new __CONTRACT__(__CONSTRUCTOR_ARG_NAMES__));",
    "        __INSTANCE__ = __CONTRACT__(",
    "            address(new TransparentUpgradeableProxy(__INSTANCE__Implementation, proxyAdminOwner, initData))",
    "        );",
    "",
    "        vm.stopBroadcast();",
    "",
    "        __INSTANCE__ProxyAdmin =",
    ("            ProxyAdmin(address(uint160(uint256(vm.load(address(__INSTANCE__), hex\"" ++ adminSlot ++ "\")))));"),
    "",
    "        return address(__INSTANCE__);",
    "    \x7d",
    "    // __IF_NOT_FEATURE_initializable__",
    "",
    "    /// @dev Deploys __CONTRACT__ without a proxy.",
    "    function deploy__CONTRACT__Implementation(__CONSTRUCTOR_PARAMS__) internal returns (address) \x7b",
    "        vm.broadcast(msg.sender);",
    "        __INSTANCE__Implementation = address(new __CONTRACT__(__CONSTRUCTOR_ARG_NAMES__));",
    "        __INSTANCE__ = __CONTRACT__(__INSTANCE__Implementation);",
    "",
    "        return __INSTANCE__Implementation;",
    "    \x7d",
    "    // __ENDIF__",
    "\x7d" ]

/-- The built-in template: its lines, each with a line end. -/
def builtInTemplate : String := String.join (templateLines.map (· ++ "\n"))

end DeployScript.Deployer
