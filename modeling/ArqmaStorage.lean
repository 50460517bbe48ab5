import ArqmaStorage.Basic
import ArqmaStorage.Serialization
import ArqmaStorage.Connection.State
import ArqmaStorage.Connection.Respond
import ArqmaStorage.Connection.Swarm
import ArqmaStorage.Connection.Client
import ArqmaStorage.Connection.Request
import ArqmaStorage.Connection.Lifecycle
import ArqmaStorage.Connection.Guards
import ArqmaStorage.Connection.Effects
import ArqmaStorage.Connection.Runs
import ArqmaStorage.Connection.Listeners
import ArqmaStorage.Connection.Lifetime
import ArqmaStorage.Reachability.Records
import ArqmaStorage.Reachability.Spec
import ArqmaStorage.Reachability.Retest
import ArqmaStorage.Client.Session
import ArqmaStorage.Client.Arqmad
import ArqmaStorage.Server.Accept
import ArqmaStorage.Server.Startup
import ArqmaStorage.Server.Version
import ArqmaStorage.Server.Run
