/-
The calls on databases: `rpc_database.cpp`.
-/
import VectorDb.Rpc.Call
import VectorDb.Rpc.Client
import VectorDb.Types.Collection
import VectorDb.Types.Proto

namespace VectorDb

open CallResult (setSuccess setMessage)

instance : Reply Olama.DatabaseResponse := ⟨(·.code), (·.msg)⟩

instance : CallResult CreateDatabaseResult where
  success := (·.success)
  message := (·.message)
  setSuccess b r := { r with success := b }
  setMessage s r := { r with message := s }

instance : CallResult ListDatabaseResult where
  success := (·.success)
  message := (·.message)
  setSuccess b r := { r with success := b }
  setMessage s r := { r with message := s }

instance : CallResult DropDatabaseResult where
  success := (·.success)
  message := (·.message)
  setSuccess b r := { r with success := b }
  setMessage s r := { r with message := s }

namespace RpcClient

/-- `RpcClient::createDatabase`.  The creation time of the local `database` is never
assigned, so it is whatever the memory held. -/
def createDatabase (_self : RpcClient) (dbName : Str) (timeout : Int32) :
    Call Olama.DatabaseRequest Olama.DatabaseResponse CreateDatabaseResult where
  request := { database := dbName, dbType := .base }
  timeout := timeout
  onStatus := "Fail to create database: "
  onCode := "Fail to create database: "
  accept stack response :=
    let database : Database := { name := dbName, createTime := stack }
    ⟨0, [setSuccess true,
      fun r => { r with database := database },
      fun r => { r with affectedCount := response.affectedCount.toUInt32.toInt32 }]⟩

/-- The entry of the list for one database name: its creation time is `-1` when the
response has no information about it. -/
def listedDatabase (response : Olama.DatabaseResponse) (dbName : Str) : Database :=
  match response.info.lookup dbName with
  | some item => { name := dbName, createTime := item.createTime }
  | none => { name := dbName, createTime := -1 }

/-- `RpcClient::listDatabases`. -/
def listDatabases (_self : RpcClient) (timeout : Int32) :
    Call Olama.DatabaseRequest Olama.DatabaseResponse ListDatabaseResult where
  request := {}
  timeout := timeout
  onStatus := "Fail to list databases: "
  onCode := "Fail to list database: "
  accept _ response :=
    let databases := response.databases.map (listedDatabase response)
    ⟨0, [setSuccess true, fun r => { r with databases := databases }]⟩

/-- `RpcClient::dropDatabase`. -/
def dropDatabase (_self : RpcClient) (dbName : Str) (timeout : Int32) :
    Call Olama.DatabaseRequest Olama.DatabaseResponse DropDatabaseResult where
  request := { database := dbName, dbType := .base }
  timeout := timeout
  onStatus := "Fail to drop database: "
  onCode := "Fail to drop database: "
  accept _ response :=
    ⟨0, [setSuccess true,
      fun r => { r with affectedCount := response.affectedCount.toUInt32.toInt32 }]⟩

end RpcClient

end VectorDb
