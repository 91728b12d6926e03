import ScrollRevm.Fee.Monotone
import ScrollRevm.History.Chain
import ScrollRevm.History.FastPath
import ScrollRevm.L1Message.FeeNeutral
import ScrollRevm.L1Message.Inclusion
import ScrollRevm.Oracle.ExecLoop
import ScrollRevm.Oracle.Freshness
import ScrollRevm.Precompile.Transfer
import ScrollRevm.Settlement.Refinement
import ScrollRevm.Journal.Recording
import ScrollRevm.Session.Frames
import ScrollRevm.Session.Transactions
import ScrollRevm.SystemCall
import ScrollRevm.Session.Session
import ScrollRevm.Session.Reference
import ScrollRevm.Precompile.Frames
import ScrollRevm.Interpreter.Frame
import ScrollRevm.Interpreter.Table
import ScrollRevm.Interpreter.Upgrade
import ScrollRevm.History.Effects
import ScrollRevm.Interpreter.Effects
import ScrollRevm.Interpreter.Funds
import ScrollRevm.Interpreter.Static
import ScrollRevm.Interpreter.Memory
import ScrollRevm.Precompile.Static
import ScrollRevm.Precompile.Provider
import ScrollRevm.Precompile.Calls
import ScrollRevm.Config
